import LintBundle.Value.Basic

/-!
# Ruleset — rule values by rule id, in order

A rule set is a mapping without repeated ids.  Inserting an id that is there keeps its place and
replaces its value whole, so reading a list of rules into a set gives each id the place of its
first and the value of its last occurrence.
-/

namespace LintBundle

/-- Rule values by rule id; no two ids are one key. -/
structure Ruleset where
  entries : List (Value × Value)
  distinct : entries.Pairwise fun a b => a.1.same b.1 = false

namespace Ruleset

/-- A key after `put` was there before or is the new one. -/
theorem key_of_mem_put {es : List (Value × Value)} {k v : Value} {e : Value × Value}
    (h : e ∈ Value.put es k v) : e.1 = k ∨ ∃ e' ∈ es, e'.1 = e.1 := by
  induction es with
  | nil => simp_all [Value.put]
  | cons a es ih =>
    rw [Value.put] at h
    split at h
    · rcases List.mem_cons.1 h with rfl | h
      · exact .inr ⟨a, by simp, rfl⟩
      · exact .inr ⟨e, by simp [h], rfl⟩
    · rcases List.mem_cons.1 h with rfl | h
      · exact .inr ⟨a, by simp, rfl⟩
      · rcases ih h with h | ⟨e', he', heq⟩
        · exact .inl h
        · exact .inr ⟨e', by simp [he'], heq⟩

/-- `put` keeps the keys apart. -/
theorem pairwise_put {es : List (Value × Value)} (k v : Value)
    (h : es.Pairwise fun a b => a.1.same b.1 = false) :
    (Value.put es k v).Pairwise fun a b => a.1.same b.1 = false := by
  induction es with
  | nil => simp [Value.put]
  | cons a es ih =>
    obtain ⟨ha, hes⟩ := List.pairwise_cons.1 h
    rw [Value.put]
    split
    · exact List.pairwise_cons.2 ⟨ha, hes⟩
    · rename_i hk
      refine List.pairwise_cons.2 ⟨fun e he => ?_, ih hes⟩
      rcases key_of_mem_put he with hek | ⟨e', he', heq⟩
      · simpa [hek] using hk
      · exact heq ▸ ha e' he'

/-- No rules. -/
def empty : Ruleset := ⟨[], .nil⟩

instance : EmptyCollection Ruleset := ⟨empty⟩
instance : Inhabited Ruleset := ⟨empty⟩

/-- Gives a rule a value: in its place if it is there, else at the end. -/
def insert (rules : Ruleset) (id value : Value) : Ruleset :=
  ⟨Value.put rules.entries id value, pairwise_put id value rules.distinct⟩

/-- Inserts rules one after the other. -/
def insertAll (rules : Ruleset) (entries : List (Value × Value)) : Ruleset :=
  entries.foldl (fun set (id, value) => set.insert id value) rules

/-- The rule set of a list of rules. -/
def ofList (entries : List (Value × Value)) : Ruleset := empty.insertAll entries

/-- The number of rules. -/
def size (rules : Ruleset) : Nat := rules.entries.length

/-- Changes every value, and no id. -/
def mapValues (f : Value → Value) (rules : Ruleset) : Ruleset where
  entries := rules.entries.map fun (id, value) => (id, f value)
  distinct := List.pairwise_map.2 rules.distinct

end Ruleset

end LintBundle
