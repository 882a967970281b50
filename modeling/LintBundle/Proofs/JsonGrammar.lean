import LintBundle.Proofs.FlowStyle
import LintBundle.Proofs.JsonReader
import LintBundle.Proofs.QuotedText
import LintBundle.Proofs.WrittenNumbers

/-!
# Proofs/JsonGrammar — the JSON texts are those of a grammar

    text ──read──▸ data        iff        text spells the data in `json`, not too deep

The steps of the reader, taken back, put together a text that spells the data (`takes_of_read`).  By
induction on the grammar they are also taken wherever a text spells data, whatever data may be
followed by comes after it, with fuel for two steps each character (`accepted_of_spells`).
-/

namespace LintBundle.Json

open Reader (EndsNumber value items members skipBlank)
open Yaml (Dialect Form Spells)

/-! ## The dialect -/

/-- What stands between quotes, by its code units. -/
inductive Units : List Char → List Point → Prop
  | nil : Units [] []
  | char {c : Char} {raw : List Char} {us : List Point} (hquote : c ≠ '"') (hslash : c ≠ '\\')
      (hcontrol : 0x20 ≤ c.toNat) (more : Units raw us) : Units (c :: raw) (.char c :: us)
  | letter {letter c : Char} {raw : List Char} {us : List Point}
      (h : Reader.simpleEscape? letter = some c) (more : Units raw us) :
      Units ('\\' :: letter :: raw) (.char c :: us)
  | code {a b c d : Char} {unit : Point} {raw : List Char} {us : List Point}
      (h : Reader.unit? a b c d = some unit) (more : Units raw us) :
      Units ('\\' :: 'u' :: a :: b :: c :: d :: raw) (unit :: us)

/-- **The dialect of JSON.** -/
def json : Dialect where
  blank := IsBlank
  word := Word
  quotes raw text := ∃ us, Units raw us ∧ text = Text.joined us
  name _ _ := True

mutual

/-- How many brackets are open at once, at the most. -/
def depth : Json → ℕ
  | array items => depthItems items + 1
  | object members => depthMembers members + 1
  | _ => 0

def depthItems : List Json → ℕ
  | [] => 0
  | j :: rest => max (depth j) (depthItems rest)

def depthMembers : List (Text × Json) → ℕ
  | [] => 0
  | (_, j) :: rest => max (depth j) (depthMembers rest)

end

/-- Words have no brackets. -/
theorem Word.depth {w : List Char} {j : Json} (h : Word w j) : j.depth = 0 := by
  cases h with
  | named h =>
    simp only [Reader.words, List.mem_cons, List.not_mem_nil, or_false, Prod.mk.injEq] at h
    rcases h with ⟨-, rfl⟩ | ⟨-, rfl⟩ | ⟨-, rfl⟩ | ⟨-, rfl⟩ | ⟨-, rfl⟩ | ⟨-, rfl⟩ <;> rfl
  | number _ =>
    rw [Written.value]
    split <;> rfl

variable {room fuel : ℕ} {cs rest : List Char}

/-! ## Texts between quotes -/

/-- What stands between quotes is read as its units. -/
theorem units_raw {raw : List Char} {us : List Point} (h : Units raw us) (rest : List Char) :
    Reader.units (raw ++ '"' :: rest) = some (us, rest) := by
  induction h with
  | nil => rfl
  | char hquote hslash hcontrol _ ih =>
    rw [List.cons_append, units_plain hquote hslash hcontrol, ih]
    rfl
  | @letter letter c raw us h _ ih =>
    have hu : letter ≠ 'u' := by
      rintro rfl
      cases h
    rw [List.cons_append, List.cons_append, units_letter hu h, ih]
    rfl
  | code h _ ih =>
    change Reader.units ('\\' :: 'u' :: _ :: _ :: _ :: _ :: (_ ++ '"' :: rest)) = _
    rw [Reader.units, h, ih]
    rfl

/-- A unit that is read in front of others is one more unit between quotes. -/
theorem exists_raw_cons {u : Point} {us : List Point}
    (ih : ∀ {us}, Reader.units cs = some (us, rest) → ∃ raw, cs = raw ++ '"' :: rest ∧ Units raw us)
    (h : ((Reader.units cs).bind fun found => some (u :: found.1, found.2)) = some (us, rest)) :
    ∃ raw us', cs = raw ++ '"' :: rest ∧ Units raw us' ∧ us = u :: us' := by
  obtain ⟨⟨us', rest'⟩, hunits, hfound⟩ := Option.bind_eq_some_iff.1 h
  obtain ⟨rfl, rfl⟩ := Prod.mk.inj (Option.some.inj hfound)
  obtain ⟨raw, hcs, hraw⟩ := ih hunits
  exact ⟨raw, us', hcs, hraw, rfl⟩

/-- What is read stood between quotes. -/
theorem exists_raw {cs rest : List Char} {us : List Point}
    (h : Reader.units cs = some (us, rest)) : ∃ raw, cs = raw ++ '"' :: rest ∧ Units raw us := by
  induction cs using Reader.units.induct generalizing us with
  | case1 r =>
    obtain ⟨rfl, rfl⟩ := Prod.mk.inj (Option.some.inj h)
    exact ⟨[], rfl, .nil⟩
  | case2 a b c d r ih =>
    rw [Reader.units] at h
    obtain ⟨u, hu, h⟩ := Option.bind_eq_some_iff.1 h
    obtain ⟨raw, us', rfl, hraw, rfl⟩ := exists_raw_cons ih h
    exact ⟨_, rfl, .code hu hraw⟩
  | case3 c r hno ih =>
    rw [Reader.units] at h
    · obtain ⟨c', hc, h⟩ := Option.bind_eq_some_iff.1 h
      obtain ⟨raw, us', rfl, hraw, rfl⟩ := exists_raw_cons ih h
      exact ⟨_, rfl, .letter hc hraw⟩
    · exact hno
  | case4 c r hquote hcode hletter hbad =>
    rw [Reader.units, if_pos hbad] at h
    · cases h
    · exact hquote
    · exact hcode
    · exact hletter
  | case5 c r hquote hcode hletter hgood ih =>
    rw [Reader.units, if_neg hgood] at h
    · obtain ⟨raw, us', rfl, hraw, rfl⟩ := exists_raw_cons ih h
      have hplain : 0x20 ≤ c.toNat ∧ c ≠ '\\' := by simpa using hgood
      exact ⟨_, rfl, .char hquote hplain.2 hplain.1 hraw⟩
    · exact hquote
    · exact hcode
    · exact hletter
  | case6 => cases h

/-- **A text is read** where one in quotes stands. -/
theorem text_ok_iff {name : Text} : Reader.text cs = .ok (name, rest) ↔
    ∃ raw text, json.quotes raw text ∧ name = .ofList text ∧ cs = raw ++ '"' :: rest := by
  constructor
  · intro h
    unfold Reader.text at h
    split at h
    · rename_i us r hunits
      obtain ⟨rfl, rfl⟩ := Prod.mk.inj (Except.ok.inj h)
      obtain ⟨raw, rfl, hraw⟩ := exists_raw hunits
      exact ⟨raw, _, ⟨us, hraw, rfl⟩, rfl, rfl⟩
    · cases h
  · rintro ⟨raw, text, ⟨us, hraw, rfl⟩, rfl, rfl⟩
    rw [Reader.text, units_raw hraw]

/-! ## What is read is spelled -/

/-- The brackets a form needs room for. -/
def formDepth : Form → ℕ
  | .data j => depth j
  | .items js => depthItems js
  | .member m => depth m.2
  | .members ms => depthMembers ms

/-- A form is taken off a text, and there is room for its brackets. -/
def Takes (room : ℕ) (form : Form) (cs rest : List Char) : Prop :=
  formDepth form ≤ room ∧ ∃ t, cs = t ++ rest ∧ Spells json form t

/-- Blanks in front of a form are taken with it. -/
theorem Takes.leading {form : Form} {cs r : List Char} (h : Takes room form (skipBlank cs) r) :
    Takes room form cs r := by
  obtain ⟨hroom, t, hcs, ht⟩ := h
  obtain ⟨b, hb, hform⟩ := exists_skipBlank cs
  exact ⟨hroom, b ++ t, by rw [hform, hcs, List.append_assoc], ht.leading hb⟩

/-- Blanks behind a form can be taken with it. -/
theorem Takes.trailing {form : Form} {cs r r' : List Char} (h : Takes room form cs r)
    (hr : skipBlank r = r') : Takes room form cs r' := by
  obtain ⟨hroom, t, rfl, ht⟩ := h
  obtain ⟨b, hb, hform⟩ := exists_skipBlank r
  exact ⟨hroom, t ++ b, by rw [hform, hr, List.append_assoc], ht.trailing hb⟩

/-- Data are taken off a text if items and members are. -/
theorem takes_data
    (hitems : ∀ {room cs js rest}, items room fuel cs = .ok (js, rest) →
      Takes room (.items js) cs (']' :: rest))
    (hmembers : ∀ {room cs ms rest}, members room fuel cs = .ok (ms, rest) →
      Takes room (.members ms) cs ('\x7d' :: rest))
    {j : Json} (h : value room (fuel + 1) cs = .ok (j, rest)) : Takes room (.data j) cs rest := by
  refine Takes.leading ?_
  rcases value_cases h with ⟨r, s, hcs, rfl, htext⟩ | ⟨room, r, js, rfl, hcs, rfl, hholds⟩ |
    ⟨room, r, ms, rfl, hcs, rfl, hholds⟩ | hscalar
  · obtain ⟨raw, text, hraw, rfl, rfl⟩ := text_ok_iff.1 htext
    exact ⟨Nat.zero_le _, '"' :: (raw ++ ['"']), by simp [hcs], .quoted hraw⟩
  · rcases hholds with ⟨hr, rfl⟩ | hfound
    · obtain ⟨b, hb, hform⟩ := exists_skipBlank r
      refine ⟨by simp [formDepth, depth, depthItems], '[' :: (b ++ [']']), ?_, .noItems hb⟩
      rw [hcs, hform, hr]
      simp
    · obtain ⟨hroom, t, rfl, ht⟩ := hitems hfound
      exact ⟨Nat.succ_le_succ hroom, '[' :: (t ++ [']']), by simp [hcs], .array ht⟩
  · rcases hholds with ⟨hr, rfl⟩ | hfound
    · obtain ⟨b, hb, hform⟩ := exists_skipBlank r
      refine ⟨by simp [formDepth, depth, depthMembers], '\x7b' :: (b ++ ['\x7d']), ?_,
        .noMembers hb⟩
      rw [hcs, hform, hr]
      simp
    · obtain ⟨hroom, t, rfl, ht⟩ := hmembers hfound
      exact ⟨Nat.succ_le_succ hroom, '\x7b' :: (t ++ ['\x7d']), by simp [hcs], .object ht⟩
  · obtain ⟨w, hw, hword⟩ := scalar_word hscalar
    exact ⟨by simp [formDepth, hword.depth], w, hw, .word hword⟩

/-- Items are taken off a text if each of them is. -/
theorem takes_items
    (hvalue : ∀ {room cs j rest}, value room fuel cs = .ok (j, rest) →
      Takes room (.data j) cs rest)
    (hitems : ∀ {room cs js rest}, items room fuel cs = .ok (js, rest) →
      Takes room (.items js) cs (']' :: rest))
    {js : List Json} (h : items room (fuel + 1) cs = .ok (js, rest)) :
    Takes room (.items js) cs (']' :: rest) := by
  obtain ⟨j, r, hj, ⟨hr, rfl⟩ | ⟨r', js, hr, hjs, rfl⟩⟩ := items_ok_iff.1 h
  · obtain ⟨hroom, t, hcs, ht⟩ := (hvalue hj).trailing hr
    exact ⟨Nat.max_le.2 ⟨hroom, Nat.zero_le _⟩, t, hcs, .lastItem ht⟩
  · obtain ⟨hroom, t, rfl, ht⟩ := (hvalue hj).trailing hr
    obtain ⟨hroom', t', rfl, ht'⟩ := hitems hjs
    exact ⟨Nat.max_le.2 ⟨hroom, hroom'⟩, t ++ ',' :: t', by simp, .item ht ht'⟩

/-- A member is taken off a text if its value is. -/
theorem takes_member
    (hvalue : ∀ {room cs j rest}, value room fuel cs = .ok (j, rest) →
      Takes room (.data j) cs rest)
    {name : Text} {j : Json} {r r' : List Char} (hname : Names cs name r)
    (hj : value room fuel r = .ok (j, rest)) (hr : skipBlank rest = r') :
    Takes room (.member (name, j)) cs r' := by
  obtain ⟨r₁, r₂, hquote, htext, hcolon⟩ := hname
  obtain ⟨raw, text, hraw, rfl, rfl⟩ := text_ok_iff.1 htext
  obtain ⟨s, hs, hform⟩ := exists_skipBlank r₂
  obtain ⟨hroom, t, rfl, ht⟩ := (hvalue hj).trailing hr
  refine Takes.leading ⟨hroom, '"' :: (raw ++ '"' :: (s ++ ':' :: t)), ?_, ?_⟩
  · rw [hquote, hform, hcolon]
    simp
  · exact .member hraw hs trivial ht

/-- Members are taken off a text if each of them is. -/
theorem takes_members
    (hvalue : ∀ {room cs j rest}, value room fuel cs = .ok (j, rest) →
      Takes room (.data j) cs rest)
    (hmembers : ∀ {room cs ms rest}, members room fuel cs = .ok (ms, rest) →
      Takes room (.members ms) cs ('\x7d' :: rest))
    {ms : List (Text × Json)} (h : members room (fuel + 1) cs = .ok (ms, rest)) :
    Takes room (.members ms) cs ('\x7d' :: rest) := by
  obtain ⟨name, j, r₁, r, hname, hj, ⟨hr, rfl⟩ | ⟨r', ms, hr, hms, rfl⟩⟩ := members_ok_iff.1 h
  · obtain ⟨hroom, t, hcs, ht⟩ := takes_member hvalue hname hj hr
    exact ⟨Nat.max_le.2 ⟨hroom, Nat.zero_le _⟩, t, hcs, .lastMember ht⟩
  · obtain ⟨hroom, t, rfl, ht⟩ := takes_member hvalue hname hj hr
    obtain ⟨hroom', t', rfl, ht'⟩ := hmembers hms
    exact ⟨Nat.max_le.2 ⟨hroom, hroom'⟩, t ++ ',' :: t', by simp, .moreMembers ht ht'⟩

/-- **Whatever is read is taken off the text.** -/
theorem takes_of_read (fuel : ℕ) :
    (∀ {room cs j rest}, value room fuel cs = .ok (j, rest) → Takes room (.data j) cs rest) ∧
    (∀ {room cs js rest}, items room fuel cs = .ok (js, rest) →
      Takes room (.items js) cs (']' :: rest)) ∧
    (∀ {room cs ms rest}, members room fuel cs = .ok (ms, rest) →
      Takes room (.members ms) cs ('\x7d' :: rest)) := by
  induction fuel with
  | zero =>
    refine ⟨?_, ?_, ?_⟩
    · intro room cs j rest h
      cases h
    · intro room cs js rest h
      cases h
    · intro room cs ms rest h
      cases h
  | succ fuel ih =>
    obtain ⟨hvalue, hitems, hmembers⟩ := ih
    exact ⟨takes_data hitems hmembers, takes_items hvalue hitems, takes_members hvalue hmembers⟩

/-! ## What is spelled is read -/

/-- What can follow data. -/
def Follows (rest : List Char) : Prop :=
  ∀ c ∈ (skipBlank rest).head?, c = ',' ∨ c = ']' ∨ c = '\x7d'

theorem Follows.blanks {b : List Char} (hb : ∀ c ∈ b, json.blank c) :
    Follows (b ++ rest) ↔ Follows rest := by
  rw [Follows, Follows, skipBlank_blanks hb]

theorem Follows.endsNumber (h : Follows rest) : EndsNumber rest := by
  obtain ⟨b, hb, hform⟩ := exists_skipBlank rest
  intro c hc
  rw [hform] at hc
  cases b with
  | nil =>
    rcases h c hc with rfl | rfl | rfl <;> decide
  | cons d b =>
    obtain rfl : d = c := Option.some.inj hc
    rcases hb d (List.mem_cons_self ..) with rfl | rfl | rfl | rfl <;> decide

theorem follows_of_skip {c : Char} (hc : c = ',' ∨ c = ']' ∨ c = '\x7d') {r : List Char}
    (h : skipBlank rest = c :: r) : Follows rest := by
  intro c' hc'
  rw [h] at hc'
  obtain rfl : c = c' := Option.some.inj hc'
  exact hc

/-- **A text is read as its form**, wherever it is followed by what can follow it, if there is room
for the brackets, and fuel for two steps each character. -/
def Accepted : Form → List Char → Prop
  | .data j, cs => ∀ room fuel rest, depth j ≤ room → 2 * cs.length ≤ fuel → Follows rest →
      ∃ r, value room fuel (cs ++ rest) = .ok (j, r) ∧ skipBlank r = skipBlank rest
  | .items js, cs => ∀ room fuel tail rest, depthItems js ≤ room → 2 * cs.length < fuel →
      skipBlank tail = ']' :: rest → items room fuel (cs ++ tail) = .ok (js, rest)
  | .member m, cs => ∀ rest, Follows rest → ∃ more, Names (cs ++ rest) m.1 more ∧
      ∀ room fuel, depth m.2 ≤ room → 2 * cs.length ≤ fuel →
        ∃ r, value room fuel more = .ok (m.2, r) ∧ skipBlank r = skipBlank rest
  | .members ms, cs => ∀ room fuel tail rest, depthMembers ms ≤ room → 2 * cs.length < fuel →
      skipBlank tail = '\x7d' :: rest → members room fuel (cs ++ tail) = .ok (ms, rest)

/-- A word is read. -/
theorem accepted_word {w : List Char} {j : Json} (h : Word w j) : Accepted (.data j) w := by
  intro room fuel rest _ hfuel hrest
  have hpos : 0 < w.length := by
    have hends : EndsNumber [] := by simp [EndsNumber]
    obtain ⟨c, r, hform, -⟩ := head_of_scalar (h.scalar hends)
    rw [List.append_nil] at hform
    rw [hform]
    exact Nat.succ_pos _
  obtain ⟨fuel, rfl⟩ : ∃ n, fuel = n + 1 := ⟨fuel - 1, by omega⟩
  exact ⟨rest, value_of_scalar (h.scalar hrest.endsNumber) room fuel, rfl⟩

/-- A text in quotes is read. -/
theorem accepted_quoted {raw : List Char} {text : List Point} (h : json.quotes raw text) :
    Accepted (.data (.str (.ofList text))) ('"' :: (raw ++ ['"'])) := by
  intro room fuel rest _ hfuel _
  obtain ⟨fuel, rfl⟩ : ∃ n, fuel = n + 1 := ⟨fuel - 1, by simp at hfuel; omega⟩
  have htext : Reader.text (raw ++ ['"'] ++ rest) = .ok (.ofList text, rest) :=
    text_ok_iff.2 ⟨raw, text, h, rfl, by simp⟩
  exact ⟨rest, (value_quote rfl).2 ⟨_, rfl, htext⟩, rfl⟩

/-- A form is read with blanks around it. -/
theorem accepted_padded {form : Form} {b b' cs : List Char} (hb : ∀ c ∈ b, json.blank c)
    (hb' : ∀ c ∈ b', json.blank c) (h : Accepted form cs) : Accepted form (b ++ (cs ++ b')) := by
  have hform : ∀ rest, b ++ (cs ++ b') ++ rest = b ++ (cs ++ (b' ++ rest)) := by simp
  have hlength : cs.length ≤ (b ++ (cs ++ b')).length := by simp; omega
  cases form with
  | data j =>
    intro room fuel rest hroom hfuel hrest
    obtain ⟨r, hvalue, hr⟩ :=
      h room fuel (b' ++ rest) hroom (by omega) ((Follows.blanks hb').2 hrest)
    refine ⟨r, ?_, by rw [hr, skipBlank_blanks hb']⟩
    rw [hform, value_blanks hb, hvalue]
  | items js =>
    intro room fuel tail rest hroom hfuel htail
    rw [hform, items_blanks hb]
    exact h room fuel (b' ++ tail) rest hroom (by omega) (by rw [skipBlank_blanks hb', htail])
  | member m =>
    intro rest hrest
    obtain ⟨more, hnames, hvalue⟩ := h (b' ++ rest) ((Follows.blanks hb').2 hrest)
    refine ⟨more, ?_, fun room fuel hroom hfuel => ?_⟩
    · rw [hform, Names, skipBlank_blanks hb]
      exact hnames
    · obtain ⟨r, hr, hskip⟩ := hvalue room fuel hroom (by omega)
      exact ⟨r, hr, by rw [hskip, skipBlank_blanks hb']⟩
  | members ms =>
    intro room fuel tail rest hroom hfuel htail
    rw [hform, members_blanks hb]
    exact h room fuel (b' ++ tail) rest hroom (by omega) (by rw [skipBlank_blanks hb', htail])

/-- A member is read if its value is. -/
theorem accepted_member {raw s cs : List Char} {text : List Point} {j : Json}
    (hraw : json.quotes raw text)
    (hs : ∀ c ∈ s, json.blank c) (h : Accepted (.data j) cs) :
    Accepted (.member (.ofList text, j)) ('"' :: (raw ++ '"' :: (s ++ ':' :: cs))) := by
  intro rest hrest
  have hcolon : skipBlank (s ++ ':' :: (cs ++ rest)) = ':' :: (cs ++ rest) := by
    rw [skipBlank_blanks hs]
    rfl
  have htext : Reader.text (raw ++ '"' :: (s ++ ':' :: (cs ++ rest)))
      = .ok (.ofList text, s ++ ':' :: (cs ++ rest)) :=
    text_ok_iff.2 ⟨raw, text, hraw, rfl, rfl⟩
  have hquote : skipBlank ('"' :: (raw ++ '"' :: (s ++ ':' :: cs)) ++ rest)
      = '"' :: (raw ++ '"' :: (s ++ ':' :: (cs ++ rest))) := by
    rw [List.cons_append, skipBlank, if_neg (by decide)]
    simp
  refine ⟨cs ++ rest, ⟨_, _, hquote, htext, hcolon⟩, fun room fuel hroom hfuel => ?_⟩
  refine h room fuel rest hroom ?_ hrest
  simp only [List.length_cons, List.length_append] at hfuel
  omega

/-- An array is read if its items are. -/
theorem accepted_array {js : List Json} {cs : List Char}
    (h : ∀ room fuel rest, depthItems js ≤ room → 2 * cs.length < fuel →
      Holds ']' (items room fuel (cs ++ ']' :: rest)) (cs ++ ']' :: rest) rest js) :
    Accepted (.data (.array js)) ('[' :: (cs ++ [']'])) := by
  intro room fuel rest hroom hfuel _
  simp only [List.length_cons, List.length_append] at hfuel
  obtain ⟨fuel, rfl⟩ : ∃ n, fuel = n + 1 := ⟨fuel - 1, by omega⟩
  obtain ⟨room, rfl⟩ : ∃ n, room = n + 1 := ⟨room - 1, (Nat.succ_pred_eq_of_pos
    (Nat.lt_of_lt_of_le (Nat.succ_pos _) hroom)).symm⟩
  have hskip : skipBlank ('[' :: (cs ++ [']']) ++ rest) = '[' :: (cs ++ ']' :: rest) := by
    rw [List.cons_append, skipBlank, if_neg (by decide)]
    simp
  exact ⟨rest, (value_bracket hskip).2
    ⟨js, rfl, h room fuel rest (Nat.le_of_succ_le_succ hroom) (by omega)⟩, rfl⟩

/-- An object is read if its members are. -/
theorem accepted_object {ms : List (Text × Json)} {cs : List Char}
    (h : ∀ room fuel rest, depthMembers ms ≤ room → 2 * cs.length < fuel →
      Holds '\x7d' (members room fuel (cs ++ '\x7d' :: rest)) (cs ++ '\x7d' :: rest) rest ms) :
    Accepted (.data (.object ms)) ('\x7b' :: (cs ++ ['\x7d'])) := by
  intro room fuel rest hroom hfuel _
  simp only [List.length_cons, List.length_append] at hfuel
  obtain ⟨fuel, rfl⟩ : ∃ n, fuel = n + 1 := ⟨fuel - 1, by omega⟩
  obtain ⟨room, rfl⟩ : ∃ n, room = n + 1 := ⟨room - 1, (Nat.succ_pred_eq_of_pos
    (Nat.lt_of_lt_of_le (Nat.succ_pos _) hroom)).symm⟩
  have hskip : skipBlank ('\x7b' :: (cs ++ ['\x7d']) ++ rest) =
      '\x7b' :: (cs ++ '\x7d' :: rest) := by
    rw [List.cons_append, skipBlank, if_neg (by decide)]
    simp
  exact ⟨rest, (value_brace hskip).2
    ⟨ms, rfl, h room fuel rest (Nat.le_of_succ_le_succ hroom) (by omega)⟩, rfl⟩

/-- Blanks in brackets hold nothing. -/
theorem holds_blanks {α : Type} {closing : Char} (hclosing : closing = ']' ∨ closing = '\x7d')
    {b : List Char} (hb : ∀ c ∈ b, json.blank c) (found : Except TextFault (List α × List Char))
    (rest : List Char) : Holds closing found (b ++ closing :: rest) rest [] := by
  refine .inl ⟨?_, rfl⟩
  rw [skipBlank_blanks hb]
  rcases hclosing with rfl | rfl <;> rfl

/-- The last item is read. -/
theorem accepted_lastItem {j : Json} {cs : List Char} (h : Accepted (.data j) cs) :
    Accepted (.items [j]) cs := by
  intro room fuel tail rest hroom hfuel htail
  obtain ⟨fuel, rfl⟩ : ∃ n, fuel = n + 1 := ⟨fuel - 1, by omega⟩
  obtain ⟨r, hvalue, hr⟩ := h room fuel tail (Nat.max_le.1 hroom).1 (by omega)
    (follows_of_skip (.inr (.inl rfl)) htail)
  exact items_ok_iff.2 ⟨j, r, hvalue, .inl ⟨hr.trans htail, rfl⟩⟩

/-- An item that others follow is read with them. -/
theorem accepted_item {j : Json} {js : List Json} {cs cs' : List Char} (h : Accepted (.data j) cs)
    (h' : Accepted (.items js) cs') : Accepted (.items (j :: js)) (cs ++ ',' :: cs') := by
  intro room fuel tail rest hroom hfuel htail
  obtain ⟨hroom, hroom'⟩ := Nat.max_le.1 hroom
  simp only [List.length_append, List.length_cons] at hfuel
  obtain ⟨fuel, rfl⟩ : ∃ n, fuel = n + 1 := ⟨fuel - 1, by omega⟩
  obtain ⟨r, hvalue, hr⟩ := h room fuel (',' :: (cs' ++ tail)) hroom (by omega)
    (follows_of_skip (.inl rfl) rfl)
  have hitems := h' room fuel tail rest hroom' (by omega) htail
  rw [List.append_assoc, List.cons_append]
  exact items_ok_iff.2 ⟨j, r, hvalue, .inr ⟨_, js, hr, hitems, rfl⟩⟩

/-- The last member is read. -/
theorem accepted_lastMember {m : Text × Json} {cs : List Char} (h : Accepted (.member m) cs) :
    Accepted (.members [m]) cs := by
  obtain ⟨name, j⟩ := m
  intro room fuel tail rest hroom hfuel htail
  obtain ⟨fuel, rfl⟩ : ∃ n, fuel = n + 1 := ⟨fuel - 1, by omega⟩
  obtain ⟨more, hnames, hmore⟩ := h tail (follows_of_skip (.inr (.inr rfl)) htail)
  obtain ⟨r, hvalue, hr⟩ := hmore room fuel (Nat.max_le.1 hroom).1 (by omega)
  exact members_ok_iff.2 ⟨name, j, more, r, hnames, hvalue, .inl ⟨hr.trans htail, rfl⟩⟩

/-- A member that others follow is read with them. -/
theorem accepted_moreMembers {m : Text × Json} {ms : List (Text × Json)} {cs cs' : List Char}
    (h : Accepted (.member m) cs) (h' : Accepted (.members ms) cs') :
    Accepted (.members (m :: ms)) (cs ++ ',' :: cs') := by
  obtain ⟨name, j⟩ := m
  intro room fuel tail rest hroom hfuel htail
  obtain ⟨hroom, hroom'⟩ := Nat.max_le.1 hroom
  simp only [List.length_append, List.length_cons] at hfuel
  obtain ⟨fuel, rfl⟩ : ∃ n, fuel = n + 1 := ⟨fuel - 1, by omega⟩
  obtain ⟨more, hnames, hmore⟩ := h (',' :: (cs' ++ tail)) (follows_of_skip (.inl rfl) rfl)
  obtain ⟨r, hvalue, hr⟩ := hmore room fuel hroom (by omega)
  have hmembers := h' room fuel tail rest hroom' (by omega) htail
  rw [List.append_assoc, List.cons_append]
  exact members_ok_iff.2 ⟨name, j, more, r, hnames, hvalue, .inr ⟨_, ms, hr, hmembers, rfl⟩⟩

/-- **Every form is read where a text spells it.** -/
theorem accepted_of_spells {form : Form} {cs : List Char} (h : Spells json form cs) :
    Accepted form cs := by
  induction h with
  | word h => exact accepted_word h
  | quoted h => exact accepted_quoted h
  | padded hb hb' _ ih => exact accepted_padded hb hb' ih
  | noItems hb => exact accepted_array fun _ _ rest _ _ => holds_blanks (.inl rfl) hb _ rest
  | array _ ih =>
    exact accepted_array fun room fuel rest hroom hfuel =>
      .inr (ih room fuel _ rest hroom hfuel rfl)
  | lastItem _ ih => exact accepted_lastItem ih
  | item _ _ ih ih' => exact accepted_item ih ih'
  | noMembers hb => exact accepted_object fun _ _ rest _ _ => holds_blanks (.inr rfl) hb _ rest
  | object _ ih =>
    exact accepted_object fun room fuel rest hroom hfuel =>
      .inr (ih room fuel _ rest hroom hfuel rfl)
  | member hname hs _ _ ih => exact accepted_member hname hs ih
  | lastMember _ ih => exact accepted_lastMember ih
  | moreMembers _ _ ih ih' => exact accepted_moreMembers ih ih'

/-- **The JSON texts are the texts of the grammar**: a text reads as data exactly where it spells
them and they are not too deep. -/
theorem read_ok_iff {j : Json} :
    read cs = .ok j ↔ Spells json (.data j) cs ∧ depth j ≤ Reader.nestingLimit := by
  rw [read, bind_eq_ok_iff]
  constructor
  · rintro ⟨⟨j', rest⟩, hvalue, h⟩
    dsimp only at h
    split at h
    · rename_i hend
      obtain rfl := Except.ok.inj h
      have hrest : skipBlank rest = [] := List.isEmpty_iff.1 hend
      obtain ⟨hroom, t, rfl, ht⟩ := ((takes_of_read _).1 hvalue).trailing hrest
      exact ⟨by rwa [List.append_nil], hroom⟩
    · cases h
  · rintro ⟨h, hdepth⟩
    have hnone : Follows [] := by simp [Follows, skipBlank]
    obtain ⟨r, hvalue, hr⟩ := accepted_of_spells h Reader.nestingLimit (2 * cs.length + 2) [] hdepth
      (by omega) hnone
    rw [List.append_nil] at hvalue
    refine ⟨_, hvalue, ?_⟩
    dsimp only
    rw [hr]
    rfl

end LintBundle.Json
