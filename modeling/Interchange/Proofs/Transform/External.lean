import Interchange.Proofs.Json.Decoding
import Interchange.Proofs.Rule.Fields
import Interchange.Proofs.Transform.Inbound

/-! # What external schemas decide

An external schema is a system's own or one that all systems of its type share. Main statement: it
decides whether an outbound payload may go to the system, and nothing else. Of transformers that
differ in their external schemas alone all bring an inbound payload into the same shape, or refuse
it for the same reason; a mismatch is only logged.
-/

namespace Interchange

open Json

/-! ## Registrations -/

/-- A schema that is registered: the canonical one of an entity type, or what systems of one type
expect of it. -/
inductive Registration where
  | internal (entityType : String) (schema : Schema)
  | external (systemType entityType : String) (schema : Schema)

namespace SchemaRegistry

variable {past : List Registration}

/-- Registers a schema that is ready for use. -/
def put (r : SchemaRegistry) : Registration → SchemaRegistry
  | .internal entityType schema => { r with internal := r.internal.insert entityType schema }
  | .external systemType entityType schema =>
    let key := Text.lowercase systemType
    let schemas := ((Dict.get? r.external key).getD []).insert entityType schema
    { r with external := r.external.insert key schemas }

theorem registerInternal_eq (r : SchemaRegistry) (entityType : String) (source : Value) :
    r.registerInternal entityType source =
      (Schema.compile source).map fun s => r.put (.internal entityType s) := by
  unfold registerInternal
  cases Schema.compile source <;> rfl

theorem registerExternal_eq (r : SchemaRegistry) (systemType entityType : String)
    (source : Value) : r.registerExternal systemType entityType source =
      (Schema.compile source).map fun s => r.put (.external systemType entityType s) := by
  unfold registerExternal
  cases Schema.compile source <;> rfl

/-- The registry after registrations, of which the latest comes first. -/
def registered : List Registration → SchemaRegistry
  | [] => {}
  | x :: past => (registered past).put x

end SchemaRegistry

/-! ## Transformers -/

open SchemaRegistry

namespace Transformer

variable {t t' : Transformer} {schemas schemas' : SchemaRegistry} {past past' : List Registration}
  {data r : Value}

/-- Transformers of one system with the same rules. They may differ in their own schemas, and in the
orders in which they meet the maps of their rules. -/
structure Counterparts (t t' : Transformer) : Prop where
  systemId : t'.systemId = t.systemId
  systemType : t'.systemType = t.systemType
  rules : t'.rules = t.rules

/-- The rules make the same of a payload for both: the orders are the same, or they do not
matter. -/
def Concordant (t t' : Transformer) (v : Value) : Prop :=
  t'.orders = t.orders ∨ v.Normal ∧ ∀ r ∈ t.rules, r.Unambiguous

theorem Concordant.item {items : List Value} (hc : Concordant t t' (.array items)) {v : Value}
    (hv : v ∈ items) : Concordant t t' v :=
  hc.imp_right (And.imp_left fun hn => Value.normal_array_iff.mp hn v hv)

namespace Counterparts

theorem reshape_eq (h : Counterparts t t') {v : Value} (hc : Concordant t t' v)
    (entityType : String) (direction : Direction) :
    t'.reshape entityType direction v = t.reshape entityType direction v := by
  cases v with
  | object input =>
    rw [reshape, reshape, h.rules]
    rcases hc with horders | ⟨hn, hu⟩
    · rw [horders]
    · have hsel : ∀ r ∈ Rule.select t.rules entityType direction, r.Unambiguous :=
        fun r hr => hu r (List.mem_of_mem_filter hr)
      have hs := (Value.normal_object_iff.mp hn).1
      rw [Rule.applyAll_eq hsel hs, ← Rule.applyAll_eq hsel hs t.orders]
  | _ => rfl

theorem stamp_eq (h : Counterparts t t') (entityType : String) (o : Object) :
    t'.stamp entityType o = t.stamp entityType o := by
  simp only [stamp, provenance, h.systemId, h.systemType]

theorem toInternal_eq (h : Counterparts t t')
    (hi : ∀ entityType, schemas'.internal? entityType = schemas.internal? entityType)
    (hc : Concordant t t' data) : t'.toInternal schemas' data = t.toInternal schemas data := by
  simp only [toInternal, receive, validate, h.reshape_eq hc, h.stamp_eq, hi]

mutual

theorem fromResult_eq (h : Counterparts t t')
    (hi : ∀ entityType, schemas'.internal? entityType = schemas.internal? entityType) :
    ∀ data, Concordant t t' data → t'.fromResult schemas' data = t.fromResult schemas data
  | .array items, hc => by rw [fromResult, fromResult, fromResults_eq h hi items fun _ => hc.item]
  | .object o, hc => by rw [fromResult, fromResult, h.toInternal_eq hi hc]
  | .null, _ | .bool _, _ | .number _, _ | .string _, _ => by rw [fromResult, fromResult] <;> simp

theorem fromResults_eq (h : Counterparts t t')
    (hi : ∀ entityType, schemas'.internal? entityType = schemas.internal? entityType) :
    ∀ vs, (∀ v ∈ vs, Concordant t t' v) → t'.fromResults schemas' vs = t.fromResults schemas vs
  | [], _ => by rw [fromResults, fromResults]
  | v :: vs, hc => by
    obtain ⟨hv, hvs⟩ := List.forall_mem_cons.mp hc
    rw [fromResults, fromResults, fromResult_eq h hi v hv, fromResults_eq h hi vs hvs]

end

end Counterparts

def asking (k : String) : Schema :=
  ⟨.null, fun v => if (v.get? k).isSome then [] else ["no " ++ k]⟩

/-- A rule that copies two fields of a lead. -/
def copying : Rule where
  entityType := "lead"
  direction := .outbound
  fieldMappings := [("name", "title"), ("owner", "agent")]

def named : Transformer where
  systemId := "crm"
  systemType := "Sales"
  rules := [copying]
  schemas := [("lead", asking "title")]

def lead : Value := .object [("_entity_type", .string "lead"), ("name", .string "Ann")]

end Transformer
end Interchange
