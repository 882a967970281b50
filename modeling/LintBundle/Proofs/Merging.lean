import LintBundle.Proofs.Keys
import LintBundle.Ruleset

/-!
# Proofs/Merging — inserting a list of rules, in closed form

`merged l` lists each id of `l` once, in the place of its first occurrence and with the value of its
last.  Inserting `l` into a rule set gives the ids that are there the value `l` has for them last,
and adds the others as `merged l` lists them (`entries_insertAll`); so a rule set read from a list
can be inserted in place of the list (`insertAll_ofList`).
-/

namespace LintBundle.Ruleset

/-- The value of an id after a list of rules, given the one it has before. -/
def lastValue (id : Value) (value : Value) (l : List (Value × Value)) : Value :=
  l.foldl (fun v e => if id.same e.1 then e.2 else v) value

/-- **The rules of a list, each id once**: in the place of its first occurrence, with the value of
its last. -/
def merged : List (Value × Value) → List (Value × Value)
  | [] => []
  | (id, value) :: rest =>
    (id, lastValue id value rest) :: (merged rest).filter fun e => !id.same e.1

/-- Whether an id is among those of some rules. -/
def hasId (entries : List (Value × Value)) (id : Value) : Bool := entries.any fun e => e.1.same id

theorem lastValue_cons (id value : Value) (e : Value × Value) (l : List (Value × Value)) :
    lastValue id value (e :: l) = lastValue id (if id.same e.1 then e.2 else value) l := rfl

/-- One id has one last value, however it is spelled. -/
theorem lastValue_congr {id id' : Value} (h : id.same id' = true) (value : Value)
    (l : List (Value × Value)) : lastValue id value l = lastValue id' value l := by
  unfold lastValue
  simp only [Value.same_congr h]

/-- An id that does not occur keeps its value. -/
theorem lastValue_of_forall {id : Value} {l : List (Value × Value)}
    (h : ∀ e ∈ l, id.same e.1 = false) (value : Value) : lastValue id value l = value := by
  induction l with
  | nil => rfl
  | cons e l ih =>
    have he : id.same e.1 = false := h e (List.mem_cons_self ..)
    rw [lastValue_cons, if_neg (by simp [he]), ih fun e' he' => h e' (List.mem_cons_of_mem e he')]

/-- Rules of other ids do not count. -/
theorem lastValue_filter {id : Value} {p : Value × Value → Bool} {l : List (Value × Value)}
    (hp : ∀ e ∈ l, id.same e.1 = true → p e = true) (value : Value) :
    lastValue id value (l.filter p) = lastValue id value l := by
  induction l generalizing value with
  | nil => rfl
  | cons e l ih =>
    have hl : ∀ e' ∈ l, id.same e'.1 = true → p e' = true :=
      fun e' he' => hp e' (List.mem_cons_of_mem e he')
    by_cases hs : id.same e.1 = true
    · rw [List.filter_cons_of_pos (hp e (List.mem_cons_self ..) hs), lastValue_cons,
        lastValue_cons, ih hl]
    · have hskip : lastValue id value (e :: l) = lastValue id value l := by
        rw [lastValue_cons, if_neg hs]
      rw [hskip, ← ih hl]
      cases he : p e
      · rw [List.filter_cons_of_neg (by simp [he])]
      · rw [List.filter_cons_of_pos he, lastValue_cons, if_neg hs]

/-! ## Inserting -/

/-- Giving a known id a value changes that value alone. -/
theorem put_of_hasId {entries : List (Value × Value)} {id : Value} (value : Value)
    (hd : entries.Pairwise fun a b => a.1.same b.1 = false) (h : hasId entries id = true) :
    Value.put entries id value = entries.map fun e =>
      (e.1, if e.1.same id then value else e.2) := by
  induction entries with
  | nil => simp [hasId] at h
  | cons a entries ih =>
    obtain ⟨ha, hes⟩ := List.pairwise_cons.1 hd
    by_cases hs : a.1.same id = true
    · have hother : ∀ e ∈ entries, (e.1, if e.1.same id then value else e.2) = e := by
        intro e he
        have hne : e.1.same id = false := by
          rw [Value.same_comm, ← Value.same_congr hs]
          exact ha e he
        simp [hne]
      rw [Value.put, if_pos hs, List.map_cons, if_pos hs, List.map_congr_left hother, List.map_id']
    · have hrest : hasId entries id = true := by simpa [hasId, hs] using h
      rw [Value.put, if_neg hs, List.map_cons, if_neg hs, ih hes hrest]

/-- A new id goes to the end. -/
theorem put_of_not_hasId {entries : List (Value × Value)} {id : Value} (value : Value)
    (h : hasId entries id = false) : Value.put entries id value = entries ++ [(id, value)] := by
  induction entries with
  | nil => rfl
  | cons a entries ih =>
    rw [hasId, List.any_cons] at h
    obtain ⟨ha, hes⟩ := Bool.or_eq_false_iff.1 h
    rw [Value.put, if_neg (by simp [ha]), ih hes]
    rfl

/-- A known id is known under all its spellings. -/
theorem hasId_congr {id id' : Value} (h : id.same id' = true) (entries : List (Value × Value)) :
    hasId entries id = hasId entries id' := by
  unfold hasId
  simp only [Value.same_comm _ id, Value.same_comm _ id', Value.same_congr h]

section Insert

variable {rules : Ruleset} {id value : Value} (l : List (Value × Value))

/-- A known id is not among the new ones, so the ids that are new stay the same. -/
theorem filter_known (h : hasId rules.entries id = true) :
    ((id, lastValue id value l) :: (merged l).filter fun e => !id.same e.1).filter
        (fun e => !hasId rules.entries e.1)
      = (merged l).filter fun e => !hasId rules.entries e.1 := by
  rw [List.filter_cons_of_neg (by simp [h]), List.filter_filter]
  refine List.filter_congr fun e _ => ?_
  cases hs : id.same e.1
  · simp
  · simp [← hasId_congr hs, h]

/-- An id is new behind a new one if it is new and another. -/
theorem filter_new :
    ((merged l).filter fun e => !hasId (rules.entries ++ [(id, value)]) e.1)
      = ((merged l).filter fun e => !id.same e.1).filter fun e => !hasId rules.entries e.1 := by
  rw [List.filter_filter]
  refine List.filter_congr fun e _ => ?_
  simp [hasId]

/-- A new id changes no value. -/
theorem map_lastValue_new (h : hasId rules.entries id = false) :
    rules.entries.map (fun e => (e.1, lastValue e.1 e.2 ((id, value) :: l)))
      = rules.entries.map fun e => (e.1, lastValue e.1 e.2 l) := by
  refine List.map_congr_left fun e he => ?_
  have hne : e.1.same id = false := by
    have := List.any_eq_false.1 h e he
    simpa using this
  rw [lastValue_cons, if_neg (by simp [hne])]

end Insert

/-- **What inserting a list of rules gives.** -/
theorem entries_insertAll (rules : Ruleset) (l : List (Value × Value)) :
    (rules.insertAll l).entries = rules.entries.map (fun e => (e.1, lastValue e.1 e.2 l))
      ++ (merged l).filter fun e => !hasId rules.entries e.1 := by
  induction l generalizing rules with
  | nil => simp [insertAll, merged, lastValue]
  | cons e l ih =>
    obtain ⟨id, value⟩ := e
    have hstep : rules.insertAll ((id, value) :: l) = (rules.insert id value).insertAll l := rfl
    rw [hstep, ih, merged]
    cases h : hasId rules.entries id with
    | true =>
      have hput : (rules.insert id value).entries
          = rules.entries.map fun e => (e.1, if e.1.same id then value else e.2) :=
        put_of_hasId value rules.distinct h
      have hids : hasId (rules.insert id value).entries = hasId rules.entries := by
        funext id'
        rw [hput, hasId, List.any_map]
        rfl
      rw [hids, filter_known l h, hput, List.map_map]
      rfl
    | false =>
      have hput : (rules.insert id value).entries = rules.entries ++ [(id, value)] :=
        put_of_not_hasId value h
      rw [hput, filter_new, map_lastValue_new l h, List.map_append,
        List.filter_cons_of_pos (by simp [h]), List.append_assoc]
      rfl

/-- **A rule set read from a list** holds its ids in the order they first occur, each with its last
value. -/
@[simp] theorem entries_ofList (l : List (Value × Value)) : (ofList l).entries = merged l := by
  rw [ofList, entries_insertAll]
  simp [empty, hasId]

/-! ## Inserting what was merged already -/

theorem ext {a b : Ruleset} (h : a.entries = b.entries) : a = b := by
  cases a
  cases b
  cases h
  rfl

/-- Distinct ids are merged as they are. -/
theorem merged_of_pairwise {l : List (Value × Value)}
    (h : l.Pairwise fun a b => a.1.same b.1 = false) : merged l = l := by
  induction l with
  | nil => rfl
  | cons e l ih =>
    obtain ⟨he, hl⟩ := List.pairwise_cons.1 h
    rw [merged, ih hl, lastValue_of_forall he,
      List.filter_eq_self.2 fun e' he' => by simp [he e' he']]

/-- Merging keeps the last values. -/
@[simp] theorem lastValue_merged (id value : Value) (l : List (Value × Value)) :
    lastValue id value (merged l) = lastValue id value l := by
  induction l generalizing value with
  | nil => rfl
  | cons e l ih =>
    rw [merged, lastValue_cons, lastValue_cons]
    by_cases hs : id.same e.1 = true
    · have hnone : ∀ e' ∈ (merged l).filter fun e' => !e.1.same e'.1, id.same e'.1 = false := by
        intro e' he'
        rw [Value.same_congr hs]
        simpa using List.of_mem_filter he'
      rw [if_pos hs, if_pos hs, lastValue_of_forall hnone, lastValue_congr hs]
    · rw [if_neg hs, if_neg hs, lastValue_filter, ih]
      -- an id that is one with both would make `id` one with the head
      intro e' _ he'
      rw [Value.same_congr he', Value.same_comm] at hs
      simpa using hs

/-- **A merged list can be inserted in place of the list.** -/
@[simp] theorem insertAll_ofList (rules : Ruleset) (l : List (Value × Value)) :
    rules.insertAll (ofList l).entries = rules.insertAll l := by
  apply ext
  rw [entries_insertAll, entries_insertAll, merged_of_pairwise (ofList l).distinct, entries_ofList]
  simp only [lastValue_merged]

theorem insertAll_append (rules : Ruleset) (l l' : List (Value × Value)) :
    rules.insertAll (l ++ l') = (rules.insertAll l).insertAll l' :=
  List.foldl_append

/-! ## Rules after an insertion -/

/-- An id among distinct ones has its own value last. -/
theorem lastValue_of_mem {l : List (Value × Value)}
    (hd : l.Pairwise fun a b => a.1.same b.1 = false) {id : Value} {e : Value × Value} (he : e ∈ l)
    (hs : id.same e.1 = true) (value : Value) : lastValue id value l = e.2 := by
  induction l generalizing value with
  | nil => cases he
  | cons e' l ih =>
    obtain ⟨hfirst, hl⟩ := List.pairwise_cons.1 hd
    rcases List.mem_cons.1 he with rfl | he
    · have hrest : ∀ e' ∈ l, id.same e'.1 = false := by
        intro e' he'
        rw [Value.same_congr hs]
        exact hfirst e' he'
      rw [lastValue_cons, if_pos hs, lastValue_of_forall hrest]
    · have hother : id.same e'.1 = false := by
        rw [Value.same_congr hs, Value.same_comm]
        exact hfirst e he
      rw [lastValue_cons, if_neg (by simp [hother])]
      exact ih hl he value

/-- An id that is not among those of a list keeps its value. -/
theorem lastValue_of_not_hasId {l : List (Value × Value)} {id : Value} (h : hasId l id = false)
    (value : Value) : lastValue id value l = value := by
  refine lastValue_of_forall (fun e he => ?_) value
  rw [Value.same_comm]
  simpa using List.any_eq_false.1 h e he

/-- Texts are known by themselves. -/
theorem hasId_str {entries : List (Value × Value)} {text : Text} :
    hasId entries (.str text) = true ↔ ∃ value, (.str text, value) ∈ entries := by
  simp only [hasId, List.any_eq_true, Value.same_str]
  constructor
  · rintro ⟨⟨id, value⟩, he, rfl⟩
    exact ⟨value, he⟩
  · rintro ⟨value, he⟩
    exact ⟨_, he, rfl⟩

/-- **A text's value after an insertion** is the one that is inserted, or the one it had if none
is. -/
theorem mem_insertAll {rules more : Ruleset} {text : Text} {value : Value} :
    (.str text, value) ∈ (rules.insertAll more.entries).entries ↔
      (.str text, value) ∈ more.entries ∨
        (.str text, value) ∈ rules.entries ∧ hasId more.entries (.str text) = false := by
  have hlast : ∀ {v w : Value}, (.str text, w) ∈ more.entries →
      lastValue (.str text) v more.entries = w :=
    fun he => lastValue_of_mem more.distinct he (Value.same_str.2 rfl) _
  rw [entries_insertAll, merged_of_pairwise more.distinct, List.mem_append, List.mem_map,
    List.mem_filter]
  constructor
  · rintro (⟨e, he, heq⟩ | ⟨he, -⟩)
    · obtain ⟨id, v⟩ := e
      obtain ⟨rfl, rfl⟩ := Prod.mk.inj heq
      cases hmore : hasId more.entries (.str text) with
      | true =>
        obtain ⟨w, hw⟩ := hasId_str.1 hmore
        exact .inl (by rwa [hlast hw])
      | false => exact .inr ⟨by rwa [lastValue_of_not_hasId hmore], rfl⟩
    · exact .inl he
  · rintro (he | ⟨he, hmore⟩)
    · cases hrules : hasId rules.entries (.str text) with
      | true =>
        obtain ⟨v, hv⟩ := hasId_str.1 hrules
        exact .inl ⟨_, hv, by rw [hlast he]⟩
      | false => exact .inr ⟨he, rfl⟩
    · exact .inl ⟨_, he, by rw [lastValue_of_not_hasId hmore]⟩

end LintBundle.Ruleset
