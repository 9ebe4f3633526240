import BulkLoad.Load.Fault

/-!
The line that tells about a fault and all that is behind it.

A fault is the uppermost of some layers, each of them caused by the next, and the lowest is an error
of the system or of a reader, behind which there is nothing. The line is got by a loop from layer to
layer. The text of a layer ends in that of its cause, so the loop has nothing to add. How faults of
JSON texts are worded is left open.
-/
namespace BulkLoad.LoadFault

theorem addCause_append (before cause : String) :
    addCause (before ++ cause) cause = before ++ cause := by
  rw [addCause, if_pos (Text.contains_append before cause)]

inductive Layer where
  | load (fault : LoadFault)
  | source (fault : SourceFault)
  | definition (fault : DefinitionFault)
  | engine (fault : EngineFault)
  | json (fault : Json.Fault)
  | bare (text : String)

namespace Layer

def cause? : Layer → Option Layer
  | .load (.source fault) => some (.source fault)
  | .load (.definition fault) => some (.definition fault)
  | .load (.createTable fault) | .load (.engine fault) => some (.engine fault)
  | .load (.output cause) => some (.bare cause)
  | .source (.unopened _ cause) => some (.bare cause)
  | .definition (.unreadable _ cause) => some (.bare cause)
  | .definition (.notJson fault) => some (.json fault)
  | .definition (.undecodable fault) => some (.bare fault.message)
  | .engine (.launch _ cause) | .engine (.script _ cause) => some (.bare cause)
  | _ => none

def height : Layer → Nat
  | .load _ => 2
  | .source _ | .definition _ | .engine _ => 1
  | .json _ | .bare _ => 0

theorem height_lt {e c : Layer} (h : e.cause? = some c) : c.height < e.height := by
  unfold cause? at h
  split at h <;> cases h <;> simp [height]

def behind (e : Layer) : List Layer :=
  match _h : e.cause? with
  | none => []
  | some c => c :: c.behind
termination_by e.height
decreasing_by exact height_lt _h

theorem behind_of_none {e : Layer} (h : e.cause? = none) : e.behind = [] := by
  rw [behind]
  split
  · rfl
  · next c hc => cases h.symm.trans hc

theorem behind_of_some {e c : Layer} (h : e.cause? = some c) : e.behind = c :: c.behind := by
  rw [behind]
  split
  · next hnone => cases h.symm.trans hnone
  · next d hd =>
      cases h.symm.trans hd
      rfl

theorem cause?_of_height {e : Layer} (h : e.height = 0) : e.cause? = none := by
  cases e with
  | load _ | source _ | definition _ | engine _ => cases h
  | json _ | bare _ => rfl

theorem behind_eq_toList {e : Layer} (h : e.height ≤ 1) : e.behind = e.cause?.toList := by
  cases hcause : e.cause? with
  | none => exact behind_of_none hcause
  | some c =>
      have hlow : c.height = 0 := by
        have := height_lt hcause
        omega
      rw [behind_of_some hcause, behind_of_none (cause?_of_height hlow)]
      rfl

/-- What is proved of a layer may use that it holds of its cause. -/
theorem induction {motive : Layer → Prop} (bottom : ∀ e, e.cause? = none → motive e)
    (caused : ∀ e c, e.cause? = some c → motive c → motive e) (e : Layer) : motive e := by
  induction hheight : e.height using Nat.strongRecOn generalizing e with
  | ind n ih =>
      cases hcause : e.cause? with
      | none => exact bottom e hcause
      | some c =>
          have hlt := height_lt hcause
          exact caused e c hcause (ih c.height (by omega) c rfl)

theorem height_lt_of_mem_behind (e : Layer) : ∀ c ∈ e.behind, c.height < e.height := by
  induction e using induction with
  | bottom e h => simp [behind_of_none h]
  | caused e c h ih =>
      rw [behind_of_some h]
      intro d hd
      rcases List.mem_cons.mp hd with rfl | hd
      · exact height_lt h
      · exact Nat.lt_trans (ih d hd) (height_lt h)

theorem nodup (e : Layer) : (e :: e.behind).Nodup := by
  induction e using induction with
  | bottom e h => simp [behind_of_none h]
  | caused e c h ih =>
      refine List.nodup_cons.mpr ⟨?_, by rwa [behind_of_some h]⟩
      intro hmem
      exact Nat.lt_irrefl _ (e.height_lt_of_mem_behind e hmem)

section Wording

variable (wording : Json.Fault → String)

def definitionText : DefinitionFault → String
  | .notJson fault => "Table definition JSON error: " ++ wording fault
  | fault => fault.message

def text : Layer → String
  | .load (.definition fault) => "Schema error: " ++ definitionText wording fault
  | .load fault => fault.message
  | .source fault => fault.message
  | .definition fault => definitionText wording fault
  | .engine fault => fault.message
  | .json fault => wording fault
  | .bare text => text

/-- The words that a layer puts in front of its cause, or all that it says if it has none. -/
def own : Layer → String
  | .load (.source _) => "Source error: "
  | .load (.definition _) => "Schema error: "
  | .load (.createTable _) => "Cannot create table: "
  | .load (.engine _) => "Engine error: "
  | .load (.output _) => "Cannot write output: "
  | .source (.unopened path _) => "Cannot open input '" ++ path ++ "': "
  | .definition (.unreadable path _) => "Cannot read table definition '" ++ path ++ "': "
  | .definition (.notJson _) | .definition (.undecodable _) => "Table definition JSON error: "
  | .engine (.launch binary _) => "Failed to launch engine '" ++ binary ++ "': "
  | .engine (.script path _) => "Failed to write query script '" ++ path ++ "': "
  | e => e.text wording

/-- A text is a layer's own words and then the whole text of its cause. -/
theorem text_of_cause {e c : Layer} (h : e.cause? = some c) :
    e.text wording = e.own wording ++ c.text wording := by
  unfold cause? at h
  split at h <;> cases h <;> rfl

theorem own_of_bottom {e : Layer} (h : e.cause? = none) : e.own wording = e.text wording := by
  unfold own
  split <;> simp [cause?] at h ⊢

theorem contains_of_cause {e c : Layer} (h : e.cause? = some c) :
    Text.contains (e.text wording) (c.text wording) = true := by
  rw [text_of_cause wording h]
  exact Text.contains_append _ _

/-- The text of a layer is what it and the layers below it say, one after the other. -/
theorem text_eq_join (e : Layer) :
    e.text wording = String.join ((e :: e.behind).map (own wording)) := by
  induction e using induction with
  | bottom e h => simp [behind_of_none h, own_of_bottom wording h]
  | caused e c h ih =>
      rw [text_of_cause wording h, ih, behind_of_some h, List.map_cons (l := c :: c.behind),
        String.join_cons]

/-- The loop that puts causes behind a message: each is added unless the message holds its text. -/
inductive Chained : String → Option Layer → String → Prop
  | done {message : String} : Chained message none message
  | step {message line : String} {c : Layer}
      (rest : Chained (addCause message (c.text wording)) c.cause? line) :
      Chained message (some c) line

theorem Chained.unique {wording : Json.Fault → String} {message line other : String}
    {cause? : Option Layer} (h : Chained wording message cause? line)
    (h' : Chained wording message cause? other) :
    line = other := by
  induction h with
  | done =>
      cases h'
      rfl
  | step rest ih =>
      cases h' with
      | step rest' => exact ih rest'

/-- The loop ends, as there are finitely many layers below each. -/
theorem chained_behind (message : String) (e : Layer) :
    Chained wording message e.cause? ((e.behind.map (text wording)).foldl addCause message) := by
  induction e using induction generalizing message with
  | bottom e h =>
      rw [h, behind_of_none h]
      exact .done
  | caused e c h ih =>
      rw [h, behind_of_some h]
      exact .step (ih _)

/-- A message that ends in the text of a layer holds all that the loop finds below it. -/
theorem addCause_behind (before : String) (e : Layer) :
    (e.behind.map (text wording)).foldl addCause (before ++ e.text wording) =
      before ++ e.text wording := by
  induction e using induction generalizing before with
  | bottom e h =>
      rw [behind_of_none h]
      rfl
  | caused e c h ih =>
      have hsplit : before ++ e.text wording = (before ++ e.own wording) ++ c.text wording := by
        rw [text_of_cause wording h, String.append_assoc]
      rw [behind_of_some h, List.map_cons, List.foldl_cons, hsplit, addCause_append]
      exact ih _

theorem chained_text_iff (e : Layer) (line : String) :
    Chained wording (e.text wording) e.cause? line ↔ line = e.text wording := by
  have hfold := addCause_behind wording "" e
  rw [String.empty_append] at hfold
  have htold := chained_behind wording (e.text wording) e
  rw [hfold] at htold
  constructor
  · exact fun h => h.unique htold
  · rintro rfl
    exact htold

end Wording

theorem text_load (f : LoadFault) : (Layer.load f).text Json.Fault.message = f.message := by
  cases f with
  | definition fault => cases fault <;> rfl
  | source _ | createTable _ | engine _ | report _ _ | output _ => rfl

theorem causes_eq (f : LoadFault) :
    f.causes = (Layer.load f).behind.map (text Json.Fault.message) := by
  cases f with
  | source fault =>
      rw [behind_of_some (e := .load (.source fault)) rfl,
        behind_eq_toList (e := .source fault) (Nat.le_refl 1)]
      cases fault <;> rfl
  | definition fault =>
      rw [behind_of_some (e := .load (.definition fault)) rfl,
        behind_eq_toList (e := .definition fault) (Nat.le_refl 1)]
      cases fault <;> rfl
  | createTable fault =>
      rw [behind_of_some (e := .load (.createTable fault)) rfl,
        behind_eq_toList (e := .engine fault) (Nat.le_refl 1)]
      cases fault <;> rfl
  | engine fault =>
      rw [behind_of_some (e := .load (.engine fault)) rfl,
        behind_eq_toList (e := .engine fault) (Nat.le_refl 1)]
      cases fault <;> rfl
  | report path message =>
      rw [behind_of_none (e := .load (.report path message)) rfl]
      rfl
  | output cause =>
      rw [behind_of_some (e := .load (.output cause)) rfl, behind_of_none (e := .bare cause) rfl]
      rfl

end Layer

theorem chain_eq_message (f : LoadFault) : f.chain = f.message := by
  have hfold := Layer.addCause_behind Json.Fault.message "" (.load f)
  rw [String.empty_append, Layer.text_load] at hfold
  rw [chain, Layer.causes_eq, hfold]

/-- **The line of a fault says each cause once.** The loop over what is behind a fault ends, with
the text of the fault itself, however faults of JSON texts are worded. This text holds that of each
layer, no layer is met twice, and each says its own words once. -/
theorem chain_says_once (f : LoadFault) :
    f.chain = f.message ∧ (Layer.load f).text Json.Fault.message = f.message ∧
      (Layer.load f :: (Layer.load f).behind).Nodup ∧
      ∀ wording : Json.Fault → String,
        (∀ line, Layer.Chained wording ((Layer.load f).text wording) (Layer.load f).cause? line ↔
          line = (Layer.load f).text wording) ∧
        (∀ e ∈ Layer.load f :: (Layer.load f).behind, ∀ c, e.cause? = some c →
          Text.contains (e.text wording) (c.text wording) = true) ∧
        (Layer.load f).text wording =
          String.join ((Layer.load f :: (Layer.load f).behind).map (Layer.own wording)) := by
  refine ⟨chain_eq_message f, Layer.text_load f, Layer.nodup _, ?_⟩
  intro wording
  refine ⟨Layer.chained_text_iff wording _, ?_, Layer.text_eq_join wording _⟩
  intro e _ c hcause
  exact Layer.contains_of_cause wording hcause

example : chain (.source (.unopened "gone" "gone")) =
    "Source error: Cannot open input 'gone': gone" := by decide +kernel

end BulkLoad.LoadFault
