import DatasetCatalog.Proofs.Storage.Definition
import DatasetCatalog.Proofs.Text.Decimal

/-!
# What the built-in types accept

A table takes any properties, but its time to live has to be a numeral of a number in 64 bits
(`Accepted`). A key/value table leaves the check to the table in it, so the two types accept the same
properties. What they make has exactly these properties, and it is made again from them: that lets
storage be brought up to date from what is stored of it.
-/

namespace DatasetCatalog.Definition

variable {ps : Properties}

/-- There is no time to live, or it is a number in 64 bits. -/
def Accepted (ps : Properties) : Prop :=
  ∀ value, StringMap.find? "ttl" ps = some value →
    ∃ n, Unsigned.Numeral value.toList n ∧ n ≤ 2 ^ 64 - 1

/-- The check of the time to live accepts a text if and only if it is such a numeral. -/
theorem checkTtl_eq_ok_iff : checkTtl ps = .ok () ↔ Accepted ps := by
  have largest : Unsigned.max = 2 ^ 64 - 1 := rfl
  unfold checkTtl Accepted ttlProperty
  cases found : StringMap.find? "ttl" ps with
  | none => simp
  | some value =>
    simp only [Option.some.injEq, forall_eq', ← largest]
    constructor
    · intro h
      cases read : Unsigned.parse value.toList with
      | error e =>
        rw [read] at h
        cases h
      | ok n => exact ⟨n, Unsigned.parse_eq_ok_iff.1 read⟩
    · intro ⟨n, numeral⟩
      rw [Unsigned.parse_eq_ok_iff.2 numeral]

section
variable (sorted : StringMap.Sorted ps) (name : String)
include sorted

/-- A table has its name, its type and the properties that are given. -/
theorem tableSpec_of_sorted : tableSpec name ps = ⟨name, "table", ps, []⟩ := by
  rw [tableSpec, StringMap.insertAll_self sorted]
  rfl

/-- A key/value table has these too, and one table with the same properties in it. -/
theorem keyValueSpec_of_sorted : keyValueSpec name ps =
    ⟨name, "keyValueTable", ps, [("kv", ⟨name ++ ".kv", "table", ps, []⟩)]⟩ := by
  have part : name ++ "." ++ embeddedTable = name ++ ".kv" := String.append_assoc
  rw [keyValueSpec, StringMap.insertAll_self sorted, part, tableSpec_of_sorted sorted]
  rfl

end

/-- **Properties are accepted exactly, and what is made of them is stable.** Both built-in types
accept the properties in which the time to live, if there is one, is an optional plus sign and then
digits of a number of at most `2 ^ 64 - 1`. They make a specification of that name, of their own type
and with exactly these properties; a key/value table embeds one table, with a name derived from its
own. From the properties of a specification the same specification is made again. -/
theorem configuration_is_exact (name : String) (sorted : StringMap.Sorted ps) :
    ((∃ spec, table name ps = .ok spec) ↔ Accepted ps) ∧
      ((∃ spec, keyValueTable name ps = .ok spec) ↔ Accepted ps) ∧
      (∀ spec, table name ps = .ok spec →
        spec = ⟨name, "table", ps, []⟩ ∧ table name spec.properties = .ok spec) ∧
      ∀ spec, keyValueTable name ps = .ok spec →
        spec = ⟨name, "keyValueTable", ps, [("kv", ⟨name ++ ".kv", "table", ps, []⟩)]⟩ ∧
          keyValueTable name spec.properties = .ok spec := by
  refine ⟨?_, ?_, fun spec made => ?_, fun spec made => ?_⟩
  · simp [table_eq_ok, checkTtl_eq_ok_iff]
  · simp [keyValueTable_eq_ok, checkTtl_eq_ok_iff]
  · have shape : spec = ⟨name, "table", ps, []⟩ :=
      (table_eq_ok.1 made).2.trans (tableSpec_of_sorted sorted name)
    have same : spec.properties = ps := by rw [shape]
    exact ⟨shape, same.symm ▸ made⟩
  · have shape : spec = ⟨name, "keyValueTable", ps, [("kv", ⟨name ++ ".kv", "table", ps, []⟩)]⟩ :=
      (keyValueTable_eq_ok.1 made).2.trans (keyValueSpec_of_sorted sorted name)
    have same : spec.properties = ps := by rw [shape]
    exact ⟨shape, same.symm ▸ made⟩

/-- The greatest time to live, with a sign and zeros in front, is accepted; one more is not. -/
theorem greatest_time_is_accepted :
    StringMap.Sorted [("note", "daily"), ("ttl", "+00018446744073709551615")] ∧
      keyValueTable "orders" [("note", "daily"), ("ttl", "+00018446744073709551615")] =
        .ok ⟨"orders", "keyValueTable", [("note", "daily"), ("ttl", "+00018446744073709551615")],
          [("kv", ⟨"orders.kv", "table", [("note", "daily"), ("ttl", "+00018446744073709551615")],
            []⟩)]⟩ ∧
      ¬ Accepted [("ttl", "18446744073709551616")] := by
  have sorted : StringMap.Sorted [("note", "daily"), ("ttl", "+00018446744073709551615")] :=
    List.pairwise_pair.2 (by decide)
  have accepted : Accepted [("note", "daily"), ("ttl", "+00018446744073709551615")] :=
    checkTtl_eq_ok_iff.1 (by decide)
  have refused : ∀ spec, table "orders" [("ttl", "18446744073709551616")] ≠ .ok spec := by
    intro spec made
    have checked : checkTtl [("ttl", "18446744073709551616")] ≠ .ok () := by decide
    exact checked (table_eq_ok.1 made).1
  obtain ⟨-, acceptable, -, exact_⟩ := configuration_is_exact "orders" sorted
  obtain ⟨spec, made⟩ := acceptable.2 accepted
  have alone : StringMap.Sorted [("ttl", "18446744073709551616")] := List.pairwise_singleton _ _
  obtain ⟨acceptable', -⟩ := configuration_is_exact "orders" alone
  refine ⟨sorted, (exact_ spec made).1 ▸ made, fun h => ?_⟩
  obtain ⟨spec', made'⟩ := acceptable'.2 h
  exact refused spec' made'

end DatasetCatalog.Definition
