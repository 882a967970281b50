import LintBundle.Proofs.Spelling
import LintBundle.Yaml.Tag.Reading

/-!
# Proofs/Schema — the rules that give plain scalars their tags

    truth words · floats · ints · merge · null · timestamps · value · marks       the standard rules
                  floats · ints · merge · null ·              value · marks · true and false

The standard rules of YAML 1.1 are looked up by a scalar's first character, and the first one whose
pattern the whole scalar has gives the tag.  The reader's own rules are those without the truth
words and the timestamps, and one for `true` and `false` after all others.

`Tag.ofSpelling` is what the reader's rules come to (`resolve_reader`), and it departs from the
standard rules exactly where these see another truth word or a timestamp (`ofSpelling_eq`).
-/

namespace LintBundle.Yaml

/-- A rule: the first characters it is looked up by, `none` for a scalar without any, and the
spellings it is about. -/
structure Rule where
  tag : Tag
  first : List (Option Char)
  spells : List Char → Bool

namespace Rule

/-- The keys of rules by first characters. -/
def keys (cs : String) : List (Option Char) := cs.toList.map some

/-- The words for truth values. -/
def truthWords : List String :=
  ["yes", "Yes", "YES", "no", "No", "NO", "true", "True", "TRUE", "false", "False", "FALSE",
    "on", "On", "ON", "off", "Off", "OFF"]

/-- The spellings of dates and moments.  A date with a digit less in its month or day is no date
here, and shorter than ten characters; a moment is longer. -/
def isTimestamp (cs : List Char) : Bool :=
  (Tag.timestamp? cs).isSome && 10 ≤ cs.length && cs.getLast? ≠ some '\n'

/-- **The standard rules**, in their order. -/
def standard : List Rule :=
  [ ⟨.bool, keys "yYnNtTfFoO", fun cs => truthWords.contains (String.ofList cs)⟩,
    ⟨.float, keys "-+0123456789.", Tag.isFloat⟩,
    ⟨.int, keys "-+0123456789", Tag.isInt⟩,
    ⟨.merge, keys "<", (· = ['<', '<'])⟩,
    ⟨.null, none :: keys "~nN", Tag.isNull⟩,
    ⟨.timestamp, keys "0123456789", isTimestamp⟩,
    ⟨.value, keys "=", (· = ['='])⟩,
    ⟨.unknown, keys "!&*", fun cs => cs = ['!'] || cs = ['&'] || cs = ['*']⟩ ]

/-- **The reader's rules.** -/
def reader : List Rule :=
  (standard.filter fun r => r.tag ≠ .bool && r.tag ≠ .timestamp) ++
    [⟨.bool, keys "tTfF", Tag.isBool⟩]

/-- Whether a rule is about a scalar; a line break at its end does not count. -/
def applies (r : Rule) (text : List Char) : Bool :=
  r.first.contains text.head? && r.spells (Tag.beforeBreak text)

/-- The tag that rules give a scalar. -/
def resolve (rules : List Rule) (text : List Char) : Tag :=
  ((rules.find? fun r => r.applies text).map tag).getD .str

end Rule

open Rule

/-- **The texts that the standard rules take for a timestamp, or for a truth word other than `true`
and `false`.** -/
def isTextOnly (text : List Char) : Bool :=
  resolve standard text = .timestamp ||
    (resolve standard text = .bool && !Tag.isBool (Tag.beforeBreak text))

/-! ## First characters -/

/-- A text and what stands before its last line break begin alike, if anything stands there. -/
theorem head?_beforeBreak {text : List Char} (h : Tag.beforeBreak text ≠ []) :
    text.head? = (Tag.beforeBreak text).head? := by
  unfold Tag.beforeBreak at h ⊢
  split
  · rename_i hbreak
    rw [if_pos hbreak] at h
    cases text with
    | nil => rfl
    | cons c r =>
      cases r with
      | nil => exact absurd rfl h
      | cons d r => rfl
  · rfl

theorem resolve_nil (text : List Char) : resolve [] text = .str := rfl

theorem resolve_cons (r : Rule) (rules : List Rule) (text : List Char) :
    resolve (r :: rules) text = if r.applies text then r.tag else resolve rules text := by
  rw [resolve, List.find?_cons]
  cases r.applies text <;> rfl

/-- A rule is about a scalar that has its spelling, as soon as its spellings begin with its keys. -/
theorem applies_eq {r : Rule} (h : ∀ cs, r.spells cs = true → ∃ c l, cs = c :: l ∧ some c ∈ r.first)
    (text : List Char) : r.applies text = r.spells (Tag.beforeBreak text) := by
  cases hspells : r.spells (Tag.beforeBreak text) with
  | false => rw [applies, hspells, Bool.and_false]
  | true =>
    obtain ⟨c, l, heq, hc⟩ := h _ hspells
    have hhead : text.head? = some c := by
      rw [head?_beforeBreak (by rw [heq]; simp), heq]
      rfl
    rw [applies, hspells, hhead, Bool.and_true]
    exact List.contains_iff_mem.2 hc

/-- Words begin with the keys of their rule. -/
theorem begins_of_word {words : List (List Char)} {first : List (Option Char)}
    (h : ∀ w ∈ words, w.head?.any (fun c => first.contains (some c)) = true) {cs : List Char}
    (mem : cs ∈ words) : ∃ c l, cs = c :: l ∧ some c ∈ first := by
  have hbegins := h cs mem
  cases cs with
  | nil => cases hbegins
  | cons c l => exact ⟨c, l, rfl, List.contains_iff_mem.1 hbegins⟩

theorem mem_digits {c : Char} (h : c.isDigit = true) : c ∈ "0123456789".toList := by
  have hrange : 48 ≤ c.toNat ∧ c.toNat < 58 := by
    simp only [Char.isDigit, Bool.and_eq_true, decide_eq_true_eq] at h
    exact ⟨h.1, Nat.lt_succ_of_le h.2⟩
  have hall : ∀ n < 58, 48 ≤ n → Char.ofNat n ∈ "0123456789".toList := by decide
  rw [← Char.ofNat_toNat c]
  exact hall _ hrange.2 hrange.1

theorem mem_keys {c : Char} {cs : String} (h : c ∈ cs.toList) : some c ∈ keys cs :=
  List.mem_map_of_mem h

/-- A numeral begins with a sign, or as it begins without one. -/
theorem begins_of_unsigned {cs : List Char} {first : List (Option Char)}
    (hsigns : some '-' ∈ first ∧ some '+' ∈ first)
    (h : ∃ c l, Tag.unsigned cs = c :: l ∧ some c ∈ first) :
    ∃ c l, cs = c :: l ∧ some c ∈ first := by
  unfold Tag.unsigned at h
  split at h
  · exact ⟨'-', _, rfl, hsigns.1⟩
  · exact ⟨'+', _, rfl, hsigns.2⟩
  · exact h

theorem isNonzeroDigit_isDigit {c : Char} (h : Tag.isNonzeroDigit c = true) : c.isDigit = true := by
  simp only [Tag.isNonzeroDigit, Bool.and_eq_true, decide_eq_true_eq] at h
  simp only [Char.isDigit, Bool.and_eq_true, decide_eq_true_eq]
  exact ⟨Nat.le_trans (by decide) h.1, h.2⟩

theorem begins_isFloat {cs : List Char} (h : Tag.isFloat cs = true) :
    ∃ c l, cs = c :: l ∧ some c ∈ keys "-+0123456789." := by
  refine begins_of_unsigned (by decide) ?_
  unfold Tag.isFloat at h
  dsimp only at h
  split at h
  · exact ⟨'.', _, ‹_›, by decide⟩
  · rename_i d r _ hbody
    refine ⟨d, r, hbody, mem_keys ?_⟩
    split at h
    · have hd : d.isDigit = true := (Bool.and_eq_true_iff.1 h).1
      exact (by decide : "0123456789".toList ⊆ "-+0123456789.".toList) (mem_digits hd)
    · cases h
  · cases h

theorem begins_isInt {cs : List Char} (h : Tag.isInt cs = true) :
    ∃ c l, cs = c :: l ∧ some c ∈ keys "-+0123456789" := by
  refine begins_of_unsigned (by decide) ?_
  unfold Tag.isInt at h
  split at h
  · exact ⟨'0', _, ‹_›, by decide⟩
  · exact ⟨'0', _, ‹_›, by decide⟩
  · exact ⟨'0', _, ‹_›, by decide⟩
  · rename_i d r _ _ _ hbody
    refine ⟨d, r, hbody, mem_keys ?_⟩
    have hd : Tag.isNonzeroDigit d = true := by
      rcases Bool.or_eq_true_iff.1 h with h | h
      · exact (Bool.and_eq_true_iff.1 h).1
      · unfold Tag.isSexagesimal at h
        split at h
        · rename_i d' ds part more hsplit
          obtain ⟨-, rest, heq, -⟩ := Text.eq_append_of_split hsplit
          obtain ⟨rfl, -⟩ := List.cons.inj heq
          exact (Bool.and_eq_true_iff.1 (Bool.and_eq_true_iff.1 h).1).1
        · cases h
    exact (by decide : "0123456789".toList ⊆ "-+0123456789".toList)
      (mem_digits (isNonzeroDigit_isDigit hd))
  · cases h

theorem begins_isTimestamp {cs : List Char} (h : isTimestamp cs = true) :
    ∃ c l, cs = c :: l ∧ some c ∈ keys "0123456789" := by
  simp only [isTimestamp, Bool.and_eq_true, decide_eq_true_eq] at h
  obtain ⟨⟨hsome, -⟩, hlast⟩ := h
  have hcs : Tag.beforeBreak cs = cs := if_neg hlast
  obtain ⟨found, hfound⟩ := Option.isSome_iff_exists.1 hsome
  rw [Tag.timestamp?, hcs] at hfound
  obtain ⟨two, htwo, -⟩ := Option.bind_eq_some_iff.1 hfound
  unfold Tag.exactlyTwo at htwo
  split at htwo
  · rename_i a b r
    split at htwo
    · rename_i hab
      exact ⟨a, _, rfl, mem_keys (mem_digits (Bool.and_eq_true_iff.1 hab).1)⟩
    · cases htwo
  · cases htwo

/-! ## Both tables as tests -/

/-- A word of a list, as characters. -/
theorem word_mem {words : List String} {cs : List Char}
    (h : words.contains (String.ofList cs) = true) : cs ∈ words.map String.toList :=
  List.mem_map.2 ⟨_, List.contains_iff_mem.1 h, String.toList_ofList⟩

/-- The texts that `null` is written as, but for a line break alone. -/
theorem applies_null (text : List Char) :
    applies ⟨.null, none :: keys "~nN", Tag.isNull⟩ text
      = (Tag.isNull (Tag.beforeBreak text) && text ≠ ['\n']) := by
  by_cases hcs : Tag.beforeBreak text = []
  · -- nothing but a line break at most
    have htext : text = [] ∨ text = ['\n'] := by
      unfold Tag.beforeBreak at hcs
      split at hcs
      · rename_i hlast
        have h := List.dropLast_append_getLast? _ hlast
        rw [hcs] at h
        exact .inr h.symm
      · exact .inl hcs
    rcases htext with rfl | rfl <;> decide
  · have hbreak : text ≠ ['\n'] := by
      rintro rfl
      exact hcs rfl
    rw [applies, decide_eq_true hbreak, Bool.and_true]
    cases hnull : Tag.isNull (Tag.beforeBreak text) with
    | false => exact Bool.and_eq_false_iff.2 (.inr hnull)
    | true =>
      have hword : Tag.beforeBreak text ∈ ["~", "null", "Null", "NULL"].map String.toList :=
        (List.mem_cons.1 (word_mem hnull)).resolve_left hcs
      have begins : ∃ c l, Tag.beforeBreak text = c :: l ∧ some c ∈ none :: keys "~nN" :=
        begins_of_word (by decide) hword
      obtain ⟨c, l, heq, hc⟩ := begins
      refine Bool.and_eq_true_iff.2 ⟨?_, hnull⟩
      rw [head?_beforeBreak hcs, heq]
      exact List.contains_iff_mem.2 hc

theorem applies_truth (text : List Char) :
    applies ⟨.bool, keys "yYnNtTfFoO", fun cs => truthWords.contains (String.ofList cs)⟩ text
      = truthWords.contains (String.ofList (Tag.beforeBreak text)) :=
  applies_eq (fun _ h => begins_of_word (by decide) (word_mem h)) text

theorem applies_float (text : List Char) :
    applies ⟨.float, keys "-+0123456789.", Tag.isFloat⟩ text
      = Tag.isFloat (Tag.beforeBreak text) :=
  applies_eq (fun _ h => begins_isFloat h) text

theorem applies_int (text : List Char) :
    applies ⟨.int, keys "-+0123456789", Tag.isInt⟩ text = Tag.isInt (Tag.beforeBreak text) :=
  applies_eq (fun _ h => begins_isInt h) text

theorem applies_merge (text : List Char) :
    applies ⟨.merge, keys "<", (· = ['<', '<'])⟩ text
      = (Tag.beforeBreak text = ['<', '<'] : Bool) :=
  applies_eq (fun _ h => ⟨'<', ['<'], of_decide_eq_true h, by decide⟩) text

theorem applies_timestamp (text : List Char) :
    applies ⟨.timestamp, keys "0123456789", isTimestamp⟩ text
      = isTimestamp (Tag.beforeBreak text) :=
  applies_eq (fun _ h => begins_isTimestamp h) text

theorem applies_value (text : List Char) :
    applies ⟨.value, keys "=", (· = ['='])⟩ text = (Tag.beforeBreak text = ['='] : Bool) :=
  applies_eq (fun _ h => ⟨'=', [], of_decide_eq_true h, by decide⟩) text

theorem applies_mark (text : List Char) :
    applies ⟨.unknown, keys "!&*", fun cs => cs = ['!'] || cs = ['&'] || cs = ['*']⟩ text
      = (Tag.beforeBreak text = ['!'] || Tag.beforeBreak text = ['&']
        || Tag.beforeBreak text = ['*'] : Bool) := by
  refine applies_eq (fun cs h => ?_) text
  have hmem : cs ∈ [['!'], ['&'], ['*']] := by simpa [or_assoc] using h
  exact begins_of_word (by decide) hmem

theorem applies_bool (text : List Char) :
    applies ⟨.bool, keys "tTfF", Tag.isBool⟩ text = Tag.isBool (Tag.beforeBreak text) :=
  applies_eq (fun _ h => begins_of_word (by decide) (word_mem h)) text

/-- **The standard rules as tests**, one after another. -/
theorem resolve_standard (text : List Char) :
    resolve standard text =
      let cs := Tag.beforeBreak text
      if truthWords.contains (String.ofList cs) then .bool
      else if Tag.isFloat cs then .float
      else if Tag.isInt cs then .int
      else if cs = ['<', '<'] then .merge
      else if Tag.isNull cs && text ≠ ['\n'] then .null
      else if isTimestamp cs then .timestamp
      else if cs = ['='] then .value
      else if cs = ['!'] || cs = ['&'] || cs = ['*'] then .unknown
      else .str := by
  simp only [standard, resolve_cons, resolve_nil, applies_truth, applies_float, applies_int,
    applies_merge, applies_null, applies_timestamp, applies_value, applies_mark, decide_eq_true_eq]

/-- **The reader's rules as tests.** -/
theorem resolve_reader_tests (text : List Char) :
    resolve reader text =
      let cs := Tag.beforeBreak text
      if Tag.isFloat cs then .float
      else if Tag.isInt cs then .int
      else if cs = ['<', '<'] then .merge
      else if Tag.isNull cs && text ≠ ['\n'] then .null
      else if cs = ['='] then .value
      else if cs = ['!'] || cs = ['&'] || cs = ['*'] then .unknown
      else if Tag.isBool cs then .bool
      else .str := by
  have hreader : reader =
      [ ⟨.float, keys "-+0123456789.", Tag.isFloat⟩, ⟨.int, keys "-+0123456789", Tag.isInt⟩,
        ⟨.merge, keys "<", (· = ['<', '<'])⟩, ⟨.null, none :: keys "~nN", Tag.isNull⟩,
        ⟨.value, keys "=", (· = ['='])⟩,
        ⟨.unknown, keys "!&*", fun cs => cs = ['!'] || cs = ['&'] || cs = ['*']⟩,
        ⟨.bool, keys "tTfF", Tag.isBool⟩ ] := rfl
  simp only [hreader, resolve_cons, resolve_nil, applies_float, applies_int,
    applies_merge, applies_null, applies_value, applies_mark, applies_bool, decide_eq_true_eq]

/-! ## The reader's rules beside the standard ones -/

/-- A truth word is nothing else. -/
theorem truthWord_only : ∀ cs ∈ truthWords.map String.toList,
    Tag.isFloat cs = false ∧ Tag.isInt cs = false ∧ cs ≠ ['<', '<'] ∧ Tag.isNull cs = false ∧
      cs ≠ ['='] ∧ (cs = ['!'] || cs = ['&'] || cs = ['*'] : Bool) = false := by
  decide

theorem isBool_truthWord {cs : List Char} (h : Tag.isBool cs = true) :
    truthWords.contains (String.ofList cs) = true := by
  have subset : ["true", "True", "TRUE", "false", "False", "FALSE"] ⊆ truthWords := by decide
  exact List.contains_iff_mem.2 (subset (List.contains_iff_mem.1 h))

/-- **The reader's rules are those of `Tag.ofSpelling`.** -/
theorem resolve_reader : resolve reader = Tag.ofSpelling := by
  funext text
  rw [resolve_reader_tests, Tag.ofSpelling]
  dsimp only
  cases hbool : Tag.isBool (Tag.beforeBreak text) with
  | false => simp only [Bool.false_eq_true, if_false]
  | true =>
    obtain ⟨hfloat, hint, hmerge, hnull, hvalue, hmark⟩ :=
      truthWord_only _ (word_mem (isBool_truthWord hbool))
    simp only [hfloat, hint, hmerge, hnull, hvalue, hmark, Bool.false_and, Bool.false_eq_true,
      if_false, if_true]

/-- A timestamp is no mark. -/
theorem isTimestamp_only {cs : List Char} (h : isTimestamp cs = true) :
    cs ≠ ['='] ∧ (cs = ['!'] || cs = ['&'] || cs = ['*'] : Bool) = false := by
  have hall : ∀ cs ∈ [['='], ['!'], ['&'], ['*']], isTimestamp cs = false := by decide
  have hne : ∀ m ∈ [['='], ['!'], ['&'], ['*']], cs ≠ m := by
    rintro m hm rfl
    rw [hall cs hm] at h
    cases h
  simpa [and_assoc] using hne

/-- The tags that both tables give alike. -/
theorem standard_agrees {text : List Char} {tag : Tag} (h : resolve standard text = tag)
    (hbool : tag ≠ .bool) (htime : tag ≠ .timestamp) :
    tag = if isTextOnly text then .str else resolve standard text := by
  simp [isTextOnly, h, hbool, htime]

/-- A test that stands in both tables, with a tag that both give alike. -/
theorem standard_agrees_ite {text : List Char} {tag tag' other : Tag} {test : Prop}
    [Decidable test] (hstandard : resolve standard text = if test then tag else tag')
    (hbool : tag ≠ .bool) (htime : tag ≠ .timestamp)
    (hother : resolve standard text = tag' →
      other = if isTextOnly text then .str else resolve standard text) :
    (if test then tag else other) = if isTextOnly text then .str else resolve standard text := by
  by_cases h : test
  · rw [if_pos h] at hstandard ⊢
    exact standard_agrees hstandard hbool htime
  · rw [if_neg h] at hstandard ⊢
    exact hother hstandard

/-- **Where the reader departs from the standard rules**: it takes for a text what they take for a
timestamp, or for a truth word other than `true` and `false`. -/
theorem ofSpelling_eq (text : List Char) :
    Tag.ofSpelling text = if isTextOnly text then .str else resolve standard text := by
  have hreader := congrFun resolve_reader text
  rw [resolve_reader_tests] at hreader
  have hstandard := resolve_standard text
  dsimp only at hreader hstandard
  rw [← hreader]
  cases htruth : truthWords.contains (String.ofList (Tag.beforeBreak text)) with
  | true =>
    obtain ⟨hfloat, hint, hmerge, hnull, hvalue, hmark⟩ := truthWord_only _ (word_mem htruth)
    rw [if_pos htruth] at hstandard
    simp only [isTextOnly, hstandard, hfloat, hint, hmerge, hnull, hvalue, hmark]
    cases Tag.isBool (Tag.beforeBreak text) <;> rfl
  | false =>
    have hbool : ¬ Tag.isBool (Tag.beforeBreak text) = true := fun h => by
      rw [isBool_truthWord h] at htruth
      cases htruth
    rw [if_neg (by rw [htruth]; exact Bool.false_ne_true)] at hstandard
    -- Numbers, merges and nulls come first in both tables.
    refine standard_agrees_ite hstandard (by decide) (by decide) fun hstandard => ?_
    refine standard_agrees_ite hstandard (by decide) (by decide) fun hstandard => ?_
    refine standard_agrees_ite hstandard (by decide) (by decide) fun hstandard => ?_
    refine standard_agrees_ite hstandard (by decide) (by decide) fun hstandard => ?_
    by_cases htime : isTimestamp (Tag.beforeBreak text) = true
    · obtain ⟨hvalue, hmark⟩ := isTimestamp_only htime
      rw [if_pos htime] at hstandard
      rw [if_neg hvalue, if_neg (by rw [hmark]; exact Bool.false_ne_true), if_neg hbool]
      simp [isTextOnly, hstandard]
    rw [if_neg htime] at hstandard
    refine standard_agrees_ite hstandard (by decide) (by decide) fun hstandard => ?_
    refine standard_agrees_ite hstandard (by decide) (by decide) fun hstandard => ?_
    rw [if_neg hbool]
    exact standard_agrees hstandard (by decide) (by decide)

end LintBundle.Yaml
