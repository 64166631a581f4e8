import FieldRules.Derive.Code
import FieldRules.Proofs.Derive.Construction
import FieldRules.Proofs.Derive.Instance
import FieldRules.Proofs.Derive.Targets
import FieldRules.Proofs.Summary.Gathered

/-!
# Generated code and what it was generated from

The code for a model has two functions that build data: one its declaration, one its summary. What they build
is what the code was generated from, so a model prepared from the declaration that the code returns runs the
plan whose statements the code has.
-/
set_option autoImplicit false

namespace FieldRules

theorem Rule.target?_of_condition? {r : Rule} {c : Condition} (h : r.condition? = some c) :
    r.target? = some c.target := by
  cases r with
  | requiredIf other target => cases h; rfl
  | conditionalRange other target min max => cases h; rfl
  | _ => cases h

theorem Summary.target_mem_targets {d : ModelDeclaration} {s : FieldSummary}
    (hs : s ∈ (ofPlan (.ofDeclaration d)).fields) {c : Condition} (hc : c ∈ s.conditions) :
    c.target ∈ d.targets := by
  rw [fields_ofPlan] at hs
  obtain ⟨f, hf, rfl⟩ := List.mem_map.mp hs
  rw [FieldSummary.conditions_foldl] at hc
  obtain ⟨given, hGiven, hCondition⟩ := List.mem_filterMap.mp hc
  exact (d.mem_targets_iff _).mpr ⟨f, hf, given, hGiven, Rule.target?_of_condition? hCondition⟩

theorem Value.IsSpelled.readsBack {v : Value} (h : v.IsSpelled) : v.ReadsBack :=
  fun t hDate => absurd hDate (h t)

namespace Derive

open Source

def firstBraces? : List Tree → Option (List Tree)
  | [] => none
  | .group _ _ .brace content :: _ => some content
  | _ :: rest => firstBraces? rest

def functionBody? (name : String) : List Tree → Option (List Tree)
  | [] => none
  | t :: rest =>
    match t, rest with
    | .name _ false "fn", .name _ false given :: behind =>
      if given = name then firstBraces? behind else functionBody? name rest
    | _, _ => functionBody? name rest

/-- The body of a function in an implementation, whose functions stand in the braces at its end. -/
def bodyOf? (name : String) (implementation : List Tree) : Option (List Tree) :=
  match implementation.getLast? with
  | some (.group _ _ .brace content) => functionBody? name content
  | _ => none

namespace Code

variable (m : AnnotatedModel) (p : Plan)

theorem bodyOf?_validate : bodyOf? "validate" (validation m p) = some (validateBody (.ofPlan m p)) := by
  rw [validation, braces, bodyOf?, List.getLast?_append]
  rfl

theorem bodyOf?_declaration : bodyOf? "declaration" (validation m p) = some m.declaration.code.trees := by
  rw [validation, braces, bodyOf?, List.getLast?_append]
  rfl

theorem bodyOf?_summary :
    bodyOf? "constraint_summary" (validation m p) = some (Summary.ofPlan p).code.trees := by
  rw [validation, braces, bodyOf?, List.getLast?_append]
  rfl

/-- The data that the code of a model builds is the data that the code was generated from. -/
structure Rebuilds : Prop where
  declaration : Form.read? ModelDeclaration.ofForm? m.declaration.code.trees = some m.declaration
  summary : Form.read? Summary.ofForm? (Summary.ofPlan p).code.trees = some (Summary.ofPlan p)
  declarationBody : bodyOf? "declaration" (validation m p) = some m.declaration.code.trees
  summaryBody : bodyOf? "constraint_summary" (validation m p) = some (Summary.ofPlan p).code.trees
  /-- What is prepared from the declaration that the code returns runs the plan of the code. -/
  plan : ∀ d, (bodyOf? "declaration" (validation m p)).bind (Form.read? ModelDeclaration.ofForm?) = some d →
    Plan.build d = .ok p ∧
      ∀ validators prepared, PreparedModel.prepare d validators = .ok prepared → prepared.plan = p

end Code

theorem AnnotatedModel.code_rebuilds {i : Item} {m : AnnotatedModel} (h : ofItem i = .ok m) :
    ∃ p, Plan.build m.declaration = .ok p ∧ Code.derived i = Code.validation m p ++ Code.record m ∧
      Code.Rebuilds m p := by
  have hSpelled := isSpelled_targets h
  have hBuild : Plan.build m.declaration = .ok (.ofDeclaration m.declaration) :=
    if_pos (declaration_isAccepted h)
  have hDeclaration := ModelDeclaration.read?_code fun v hv => (hSpelled v hv).readsBack
  refine ⟨.ofDeclaration m.declaration, hBuild, by rw [Code.derived, h]; rfl, ?_⟩
  refine
    { declaration := hDeclaration
      summary := Summary.read?_code fun s hs c hc =>
        (hSpelled _ (Summary.target_mem_targets hs hc)).readsBack
      declarationBody := Code.bodyOf?_declaration ..
      summaryBody := Code.bodyOf?_summary ..
      plan := ?_ }
  -- what the function returns is the declaration itself, so it is planned as it was for the code
  intro d hd
  rw [Code.bodyOf?_declaration, Option.bind_some, hDeclaration] at hd
  cases hd
  refine ⟨hBuild, fun validators prepared hPrepare => ?_⟩
  obtain ⟨-, -, rfl⟩ := (PreparedModel.prepare_eq_ok_iff _ _ _).mp hPrepare
  rfl

theorem AnnotatedModel.code_rebuilds_signup : ∃ m,
    ofItem (Signup.item [Signup.rules (Signup.given "hook" (Source.word "finish"))]) = .ok m ∧
    ∃ p, Plan.build m.declaration = .ok p ∧
      Code.derived (Signup.item [Signup.rules (Signup.given "hook" (Source.word "finish"))]) =
        Code.validation m p ++ Code.record m ∧
      Code.Rebuilds m p := by
  obtain ⟨m, hModel, -⟩ : ∃ m,
      ofItem (Signup.item [Signup.rules (Signup.given "hook" (Source.word "finish"))]) = .ok m ∧
      Signup.IsModel m (some "finish") := Signup.exists_model (by decide +kernel)
  exact ⟨m, hModel, code_rebuilds hModel⟩

end Derive
end FieldRules
