import FieldRules.Proofs.Declaration.Reduced
import FieldRules.Proofs.Prepared.Dynamic

/-!
# Faults

What a declaration asks of a record is a list of contributions, of which some are faults of validators. A policy
decides what becomes of the faults and of nothing else: absorbed, they are as good as not referred to; reported,
each is an error in its place. Only a hook can tell the policies apart by itself, for it is given the context.
-/
set_option autoImplicit false

namespace FieldRules

/-- What a part of a field adds: entries, or the fault of a validator. -/
inductive Contribution where
  | entries (entries : List Entry)
  | fault (field label : String)

namespace Contribution

def isFault : Contribution → Bool
  | entries _ => false
  | fault _ _ => true

def under (policy : FaultPolicy) : Contribution → List Entry
  | entries es => es
  | fault field label =>
    match policy with
    | .absorb => []
    | .report => [{ field, message := "The " ++ label ++ " field could not be validated.", severity := .error }]

theorem under_absorb_of_isFault {c : Contribution} (h : c.isFault = true) : c.under .absorb = [] := by
  cases c with
  | entries es => cases h
  | fault field label => rfl

end Contribution

namespace FieldDeclaration

variable (validators : ValidatorSet) (ctx : Context) (read : String → Value) (f : FieldDeclaration)

/-- What the validator of a reference adds: the entries it returns, or a fault on the field. -/
def contribution (w : ValidatorRef) : Contribution :=
  match f.validatorResult? validators ctx read w with
  | none => .entries []
  | some (.finished outcome) => .entries (outcome.attributeTo f.name).entries
  | some _ => .fault f.name f.label

/-- The entries of the constraints, then one contribution for each validator in order. -/
def contributions : List Contribution :=
  .entries (f.constraints.flatMap (f.constraintEntries ctx read)) ::
    f.validators.map (f.contribution validators ctx read)

/-- The field without the references to validators that fault on its value. -/
def withoutFaults : FieldDeclaration :=
  { f with validators := f.validators.filter fun w => !(f.contribution validators ctx read w).isFault }

theorem validatorEntries_under (policy : FaultPolicy) (model : String) (w : ValidatorRef) :
    f.validatorEntries validators { ctx with policy } read model w =
      (f.contribution validators ctx read w).under policy := by
  have hResult : f.validatorResult? validators { ctx with policy } read w =
      f.validatorResult? validators ctx read w := rfl
  rw [validatorEntries, contribution, hResult]
  cases f.validatorResult? validators ctx read w with
  | none => rfl
  | some result =>
    cases result with
    | finished outcome => rfl
    | faulted reason => cases policy <;> rfl
    | panicked message => cases policy <;> rfl

theorem expectedEntries_under (policy : FaultPolicy) (model : String) :
    f.expectedEntries validators { ctx with policy } read model =
      (f.contributions validators ctx read).flatMap (Contribution.under policy) := by
  rw [expectedEntries, contributions, List.flatMap_cons, List.flatMap_map,
    funext (f.validatorEntries_under validators ctx read policy model)]
  rfl

/-- Where faults are absorbed, the validators that fault make no difference. -/
theorem expectedEntries_withoutFaults (model : String) :
    (f.withoutFaults validators ctx read).expectedEntries validators { ctx with policy := .absorb } read model =
      f.expectedEntries validators { ctx with policy := .absorb } read model := by
  have hFaults (w : ValidatorRef) (_ : w ∈ f.validators)
      (hFault : (!(f.contribution validators ctx read w).isFault) = false) :
      f.validatorEntries validators { ctx with policy := .absorb } read model w = [] := by
    rw [validatorEntries_under]
    exact Contribution.under_absorb_of_isFault (by simpa using hFault)
  exact congrArg (f.constraints.flatMap (f.constraintEntries { ctx with policy := .absorb } read) ++ ·)
    (flatMap_filter_of_nil f.validators hFaults)

theorem withoutFaults_reduces : (f.withoutFaults validators ctx read).Reduces f where
  name_eq := rfl
  fieldType_eq := rfl
  rules c hc := ⟨c, hc, rfl⟩
  validators _ hw := List.mem_of_mem_filter hw

end FieldDeclaration

namespace ModelDeclaration

variable (validators : ValidatorSet) (ctx : Context) (read : String → Value) (d : ModelDeclaration)

def contributions : List Contribution :=
  d.fields.flatMap (FieldDeclaration.contributions validators ctx read)

def withoutFaults : ModelDeclaration :=
  d.mapFields (.withoutFaults validators ctx read)

theorem expectedEntries_under (policy : FaultPolicy) :
    d.expectedEntries validators { ctx with policy } read =
      (d.contributions validators ctx read).flatMap (Contribution.under policy) := by
  rw [expectedEntries, contributions, List.flatMap_assoc]
  exact List.flatMap_congr fun f _ => f.expectedEntries_under validators ctx read policy d.name

theorem expectedEntries_withoutFaults :
    (d.withoutFaults validators ctx read).expectedEntries validators { ctx with policy := .absorb } read =
      d.expectedEntries validators { ctx with policy := .absorb } read := by
  rw [expectedEntries, withoutFaults, mapFields, List.flatMap_map]
  exact List.flatMap_congr fun f _ => f.expectedEntries_withoutFaults validators ctx read d.name

end ModelDeclaration

/-- Three validations of a record: with faults absorbed, with faults reported, and without the validators that
fault. They differ in the errors on faults, and at most in what a hook leaves under either policy. -/
structure FaultsSetApart {ρ : Type} [Record ρ] (d : ModelDeclaration) (validators : ValidatorSet) (ctx : Context)
    (absorbed reported reduced : Validated ρ) : Prop where
  absorbed_record : absorbed.record = reduced.record
  reported_record : reported.record = reduced.record
  absorbed_outcome : absorbed.outcome = reduced.outcome
  absorbed_entries : absorbed.outcome.entries =
    (d.contributions validators ctx (Record.read reduced.record)).flatMap (Contribution.under .absorb) ++
      d.hookEntries validators { ctx with policy := .absorb } (Record.view reduced.record)
  reported_entries : reported.outcome.entries =
    (d.contributions validators ctx (Record.read reduced.record)).flatMap (Contribution.under .report) ++
      d.hookEntries validators { ctx with policy := .report } (Record.view reduced.record)

namespace PreparedModel

variable {ρ : Type} [Record ρ]

/-- The policy on faults decides on nothing but the errors that stand for them. -/
theorem run_faultsSetApart {d : ModelDeclaration} {validators : ValidatorSet} {m : PreparedModel}
    (h : prepare d validators = .ok m) (r : ρ) (ctx : Context) :
    ∃ m', prepare (d.withoutFaults validators ctx (Record.read (m.run r ctx).record)) validators = .ok m' ∧
      FaultsSetApart d validators ctx (m.run r { ctx with policy := .absorb })
        (m.run r { ctx with policy := .report }) (m'.run r { ctx with policy := .absorb }) := by
  obtain ⟨hAccepted, -, rfl⟩ := (prepare_eq_ok_iff d validators m).mp h
  -- Which validators fault is settled on the sanitized record, and that does not depend on the policy.
  have hRecord : ((ofDeclaration d validators).run r ctx).record = sanitize (Plan.ofDeclaration d) r := rfl
  rw [hRecord]
  have hReduces : (d.withoutFaults validators ctx (Record.read (sanitize (Plan.ofDeclaration d) r))).Reduces d :=
    ModelDeclaration.reduces_mapFields fun f _ => f.withoutFaults_reduces validators ctx _
  have hSanitize : sanitize (Plan.ofDeclaration
      (d.withoutFaults validators ctx (Record.read (sanitize (Plan.ofDeclaration d) r)))) r =
        sanitize (Plan.ofDeclaration d) r :=
    sanitize_mapFields d (.withoutFaults validators ctx _) (fun _ _ => rfl) r
  refine ⟨_, hReduces.prepare h, ?_⟩
  simp only [run_eq_expected hAccepted, run_eq_expected (hReduces.isAccepted_of_reduces hAccepted), hSanitize]
  refine
    { absorbed_record := rfl
      reported_record := rfl
      absorbed_outcome := ?_
      absorbed_entries := by rw [d.expectedEntries_under]
      reported_entries := by rw [d.expectedEntries_under] }
  rw [d.expectedEntries_withoutFaults]
  rfl

end PreparedModel

namespace Probe

/-- The second validator of three faults on every value, and the hook notes the context. -/
def declaration : ModelDeclaration :=
  { name := "Probe"
    fields := [{ name := "code"
                 fieldType := .string
                 validators := [{ name := "echo" }, { name := "flaky" }, { name := "echo" }] }]
    hook := some "noted" }

def validators : ValidatorSet :=
  { validators :=
      [("echo", ⟨fun v _ => .finished (.failure "" (v.kindName ++ ":" ++ v.display))⟩),
       ("flaky", ⟨fun _ _ => .faulted "store offline"⟩)]
    hooks :=
      [("noted", ⟨fun r ctx =>
        [{ field := "", message := r.modelName ++ "|" ++ ctx.group.getD "-" ++ "|" ++ ctx.policy.name ++ "|" }]⟩)] }

def record : DynamicRecord :=
  ⟨"Record", [("code", .text "x")]⟩

theorem prepare_declaration :
    PreparedModel.prepare declaration validators = .ok (.ofDeclaration declaration validators) := by
  apply PreparedModel.prepare_of_checks
  · decide +kernel
  · decide +kernel

end Probe

namespace PreparedModel

theorem run_faultsSetApart_probe :
    prepare Probe.declaration Probe.validators = .ok (ofDeclaration Probe.declaration Probe.validators) ∧
    ∃ m', prepare (Probe.declaration.withoutFaults Probe.validators {} (Record.read
        ((ofDeclaration Probe.declaration Probe.validators).run Probe.record {}).record)) Probe.validators =
          .ok m' ∧
      FaultsSetApart Probe.declaration Probe.validators {}
        ((ofDeclaration Probe.declaration Probe.validators).run Probe.record { policy := .absorb })
        ((ofDeclaration Probe.declaration Probe.validators).run Probe.record { policy := .report })
        (m'.run Probe.record { policy := .absorb }) :=
  ⟨Probe.prepare_declaration, run_faultsSetApart Probe.prepare_declaration Probe.record {}⟩

/-- A hook that looks at the policy leaves another entry under either, so the entries with faults absorbed are
not among those with faults reported. -/
theorem run_noted_policy :
    prepare Probe.declaration Probe.validators = .ok (ofDeclaration Probe.declaration Probe.validators) ∧
    ((ofDeclaration Probe.declaration Probe.validators).run Probe.record
        { policy := .absorb }).outcome.entries =
      [⟨"code", "string:x", .error⟩, ⟨"code", "string:x", .error⟩, ⟨"", "Record|-|absorb|", .error⟩] ∧
    ((ofDeclaration Probe.declaration Probe.validators).run Probe.record
        { policy := .report }).outcome.entries =
      [⟨"code", "string:x", .error⟩, ⟨"code", "The code field could not be validated.", .error⟩,
        ⟨"code", "string:x", .error⟩, ⟨"", "Record|-|report|", .error⟩] ∧
    ¬ ((ofDeclaration Probe.declaration Probe.validators).run Probe.record
          { policy := .absorb }).outcome.entries.Sublist
        ((ofDeclaration Probe.declaration Probe.validators).run Probe.record
          { policy := .report }).outcome.entries :=
  ⟨Probe.prepare_declaration, by decide +kernel⟩

end PreparedModel
end FieldRules
