import LintBundle.Json.Reader
import LintBundle.Proofs.Chaining
import Mathlib.Data.Nat.Notation

/-!
# Proofs/JsonReader — what each step of the JSON reader takes off a text

    blanks | text | [ items ] | { members } | word

No reader looks at the blanks in front of it (`skipBlank_blanks`).  Data are read by their first
character: after a quote as a text, after a bracket as what it holds, and else as a word
(`value_cases`); items and members are read one after the other, as long as commas follow
(`items_ok_iff`, `members_ok_iff`).
-/

namespace LintBundle.Json

open Reader (value items members scalar skipBlank)

/-! ## Blanks -/

/-- The blanks of a JSON text. -/
def IsBlank (c : Char) : Prop := c = ' ' ∨ c = '\t' ∨ c = '\n' ∨ c = '\r'

theorem skipBlank_blanks {b : List Char} (hb : ∀ c ∈ b, IsBlank c) (cs : List Char) :
    skipBlank (b ++ cs) = skipBlank cs := by
  induction b with
  | nil => rfl
  | cons c b ih =>
    obtain ⟨hc, hb⟩ := List.forall_mem_cons.1 hb
    have hblank : (c = ' ' || c = '\t' || c = '\n' || c = '\r') = true := by
      rcases hc with rfl | rfl | rfl | rfl <;> rfl
    rw [List.cons_append, skipBlank, if_pos hblank, ih hb]

theorem exists_skipBlank (cs : List Char) :
    ∃ b, (∀ c ∈ b, IsBlank c) ∧ cs = b ++ skipBlank cs := by
  induction cs with
  | nil => exact ⟨[], List.forall_mem_nil _, rfl⟩
  | cons c cs ih =>
    rw [skipBlank]
    split
    · rename_i hc
      obtain ⟨b, hb, hcs⟩ := ih
      have hblank : IsBlank c := by simpa [IsBlank, or_assoc] using hc
      exact ⟨c :: b, List.forall_mem_cons.2 ⟨hblank, hb⟩, congrArg _ hcs⟩
    · exact ⟨[], List.forall_mem_nil _, rfl⟩

@[simp] theorem skipBlank_skipBlank (cs : List Char) : skipBlank (skipBlank cs) = skipBlank cs := by
  obtain ⟨b, hb, hcs⟩ := exists_skipBlank cs
  exact (skipBlank_blanks hb _).symm.trans (congrArg skipBlank hcs.symm)

/-- No reader looks at the blanks in front. -/
@[simp] theorem value_skipBlank (room fuel : ℕ) (cs : List Char) :
    value room fuel (skipBlank cs) = value room fuel cs := by
  cases fuel with
  | zero => rfl
  | succ fuel => rw [value, value, skipBlank_skipBlank]

@[simp] theorem items_skipBlank (room fuel : ℕ) (cs : List Char) :
    items room fuel (skipBlank cs) = items room fuel cs := by
  cases fuel with
  | zero => rfl
  | succ fuel => rw [items, items, value_skipBlank]

@[simp] theorem members_skipBlank (room fuel : ℕ) (cs : List Char) :
    members room fuel (skipBlank cs) = members room fuel cs := by
  cases fuel with
  | zero => rfl
  | succ fuel => rw [members, members, skipBlank_skipBlank]

section Blanks

variable {b : List Char} (hb : ∀ c ∈ b, IsBlank c) (room fuel : ℕ) (cs : List Char)

include hb

theorem value_blanks : value room fuel (b ++ cs) = value room fuel cs := by
  rw [← value_skipBlank, skipBlank_blanks hb, value_skipBlank]

theorem items_blanks : items room fuel (b ++ cs) = items room fuel cs := by
  rw [← items_skipBlank, skipBlank_blanks hb, items_skipBlank]

theorem members_blanks : members room fuel (b ++ cs) = members room fuel cs := by
  rw [← members_skipBlank, skipBlank_blanks hb, members_skipBlank]

end Blanks

/-! ## One step of each reader -/

variable {room fuel : ℕ} {cs rest : List Char}

/-- No data begin with a closing bracket. -/
theorem value_closing {c : Char} (hc : c = ']' ∨ c = '\x7d') {j : Json} {r : List Char}
    (hcs : skipBlank cs = c :: r) : value room fuel cs ≠ .ok (j, rest) := by
  cases fuel with
  | zero => rintro ⟨⟩
  | succ fuel =>
    rw [value, hcs]
    rcases hc with rfl | rfl <;> rintro ⟨⟩

theorem items_closing {js : List Json} {r : List Char} (hcs : skipBlank cs = ']' :: r) :
    items room fuel cs ≠ .ok (js, rest) := by
  cases fuel with
  | zero => rintro ⟨⟩
  | succ fuel =>
    rw [items]
    intro h
    obtain ⟨⟨j, r'⟩, hvalue, -⟩ := bind_eq_ok_iff.1 h
    exact value_closing (.inl rfl) hcs hvalue

theorem members_closing {ms : List (Text × Json)} {r : List Char}
    (hcs : skipBlank cs = '\x7d' :: r) : members room fuel cs ≠ .ok (ms, rest) := by
  cases fuel with
  | zero => rintro ⟨⟩
  | succ fuel =>
    rw [members, hcs]
    rintro ⟨⟩

/-- Data that begin with a quote are a text. -/
theorem value_quote {r : List Char} (hcs : skipBlank cs = '"' :: r) {j : Json} :
    value room (fuel + 1) cs = .ok (j, rest) ↔ ∃ s, j = .str s ∧ Reader.text r = .ok (s, rest) := by
  have hstep : value room (fuel + 1) cs
      = Reader.text r >>= fun found => pure (.str found.1, found.2) := by
    rw [value, hcs]
    rfl
  rw [hstep, bind_eq_ok_iff]
  constructor
  · rintro ⟨⟨s, r'⟩, htext, hfound⟩
    obtain ⟨rfl, rfl⟩ := Prod.mk.inj (Except.ok.inj hfound)
    exact ⟨s, rfl, htext⟩
  · rintro ⟨s, rfl, htext⟩
    exact ⟨_, htext, rfl⟩

/-- What brackets hold: nothing, or what is read behind the first of them. -/
def Holds {α : Type} (closing : Char) (found : Except TextFault (List α × List Char))
    (r rest : List Char) (xs : List α) : Prop :=
  skipBlank r = closing :: rest ∧ xs = [] ∨ found = .ok (xs, rest)

/-- Brackets are read as what they hold, since nothing that is read begins with the last of them. -/
theorem holds_iff {α : Type} {closing : Char} {r : List Char} {wrap : List α → Json}
    {step : Except TextFault (Json × List Char)} {found : Except TextFault (List α × List Char)}
    (hempty : ∀ rest, skipBlank r = closing :: rest → step = .ok (wrap [], rest))
    (hfull : (∀ rest, skipBlank r ≠ closing :: rest) →
      step = found >>= fun x => pure (wrap x.1, x.2))
    (hclosing : ∀ r' xs rest, skipBlank r = closing :: r' → found ≠ .ok (xs, rest)) {j : Json} :
    step = .ok (j, rest) ↔ ∃ xs, j = wrap xs ∧ Holds closing found r rest xs := by
  by_cases h : ∃ rest, skipBlank r = closing :: rest
  · obtain ⟨r', hr⟩ := h
    rw [hempty r' hr]
    constructor
    · intro h
      obtain ⟨rfl, rfl⟩ := Prod.mk.inj (Except.ok.inj h)
      exact ⟨[], rfl, .inl ⟨hr, rfl⟩⟩
    · rintro ⟨xs, rfl, ⟨hr', rfl⟩ | hfound⟩
      · rw [hr] at hr'
        rw [(List.cons.inj hr').2]
      · exact absurd hfound (hclosing _ _ _ hr)
  · have hno : ∀ rest, skipBlank r ≠ closing :: rest := fun rest hr => h ⟨rest, hr⟩
    rw [hfull hno, bind_eq_ok_iff]
    constructor
    · rintro ⟨⟨xs, r'⟩, hfound, hwrap⟩
      obtain ⟨rfl, rfl⟩ := Prod.mk.inj (Except.ok.inj hwrap)
      exact ⟨xs, rfl, .inr hfound⟩
    · rintro ⟨xs, rfl, ⟨hr, -⟩ | hfound⟩
      · exact absurd hr (hno _)
      · exact ⟨_, hfound, rfl⟩

/-- Data that begin with a bracket are an array. -/
theorem value_bracket {r : List Char} (hcs : skipBlank cs = '[' :: r) {j : Json} :
    value (room + 1) (fuel + 1) cs = .ok (j, rest) ↔ ∃ js, j = .array js ∧
      Holds ']' (items room fuel r) r rest js := by
  rw [value, hcs]
  simp only [Nat.add_one_ne_zero, if_false, Nat.add_sub_cancel]
  refine holds_iff (fun rest hr => ?_) (fun hno => ?_) fun _ _ _ => items_closing
  · rw [hr]
    rfl
  · rw [← items_skipBlank room fuel r]
    split
    · rename_i hr
      exact absurd hr (hno _)
    · rfl

/-- Data that begin with a brace are an object. -/
theorem value_brace {r : List Char} (hcs : skipBlank cs = '\x7b' :: r) {j : Json} :
    value (room + 1) (fuel + 1) cs = .ok (j, rest) ↔ ∃ ms, j = .object ms ∧
      Holds '\x7d' (members room fuel r) r rest ms := by
  rw [value, hcs]
  simp only [Nat.add_one_ne_zero, if_false, Nat.add_sub_cancel]
  refine holds_iff (fun rest hr => ?_) (fun hno => ?_) fun _ _ _ => members_closing
  · rw [hr]
    rfl
  · rw [← members_skipBlank room fuel r]
    split
    · rename_i hr
      exact absurd hr (hno _)
    · rfl

/-- All other data are a word or a number. -/
theorem value_other (hcs : ∀ c ∈ (skipBlank cs).head?, c ≠ '"' ∧ c ≠ '[' ∧ c ≠ '\x7b') :
    value room (fuel + 1) cs = Reader.scalar (skipBlank cs) := by
  rw [value]
  split
  · rename_i r hr
    exact absurd rfl (hcs '"' (by rw [hr]; rfl)).1
  · rename_i r hr
    exact absurd rfl (hcs '[' (by rw [hr]; rfl)).2.1
  · rename_i r hr
    exact absurd rfl (hcs '\x7b' (by rw [hr]; rfl)).2.2
  · rfl

/-- A scalar begins with no blank, quote or bracket. -/
theorem head_of_scalar {cs : List Char} {found : Json × List Char} (h : scalar cs = .ok found) :
    ∃ c r, cs = c :: r ∧
      c ∉ [' ', '\t', '\n', '\r', '"', '[', ']', '\x7b', '\x7d'] := by
  cases cs with
  | nil => cases h
  | cons c r =>
    refine ⟨c, r, rfl, fun hc => ?_⟩
    simp only [List.mem_cons, List.not_mem_nil, or_false] at hc
    rcases hc with rfl | rfl | rfl | rfl | rfl | rfl | rfl | rfl | rfl <;> cases h

/-- What is read as a scalar is the value. -/
theorem value_of_scalar {cs : List Char} {found : Json × List Char} (h : scalar cs = .ok found)
    (room fuel : ℕ) : value room (fuel + 1) cs = .ok found := by
  obtain ⟨c, r, rfl, hc⟩ := head_of_scalar h
  simp only [List.mem_cons, List.not_mem_nil, or_false, not_or] at hc
  obtain ⟨hspace, htab, hn, hr, hquote, hopen, -, hbrace, -⟩ := hc
  have hskip : skipBlank (c :: r) = c :: r := by
    rw [skipBlank, if_neg (by simp [hspace, htab, hn, hr])]
  rw [value, hskip]
  simp [hquote, hopen, hbrace, h]

/-- **What data that are read can be**, by their first character. -/
theorem value_cases {j : Json} (h : value room (fuel + 1) cs = .ok (j, rest)) :
    (∃ r s, skipBlank cs = '"' :: r ∧ j = .str s ∧ Reader.text r = .ok (s, rest)) ∨
    (∃ room' r js, room = room' + 1 ∧ skipBlank cs = '[' :: r ∧ j = .array js ∧
      Holds ']' (items room' fuel r) r rest js) ∨
    (∃ room' r ms, room = room' + 1 ∧ skipBlank cs = '\x7b' :: r ∧ j = .object ms ∧
      Holds '\x7d' (members room' fuel r) r rest ms) ∨
    Reader.scalar (skipBlank cs) = .ok (j, rest) := by
  have hfull : ∀ {c r}, c = '[' ∨ c = '\x7b' → skipBlank cs = c :: r → room ≠ 0 := by
    rintro c r hc hcs rfl
    rw [value, hcs] at h
    rcases hc with rfl | rfl <;> cases h
  by_cases hquote : ∃ r, skipBlank cs = '"' :: r
  · obtain ⟨r, hr⟩ := hquote
    obtain ⟨s, hs, htext⟩ := (value_quote hr).1 h
    exact .inl ⟨r, s, hr, hs, htext⟩
  by_cases hbracket : ∃ r, skipBlank cs = '[' :: r
  · obtain ⟨r, hr⟩ := hbracket
    obtain ⟨room', rfl⟩ := Nat.exists_eq_succ_of_ne_zero (hfull (.inl rfl) hr)
    obtain ⟨js, hjs, hholds⟩ := (value_bracket hr).1 h
    exact .inr (.inl ⟨room', r, js, rfl, hr, hjs, hholds⟩)
  by_cases hbrace : ∃ r, skipBlank cs = '\x7b' :: r
  · obtain ⟨r, hr⟩ := hbrace
    obtain ⟨room', rfl⟩ := Nat.exists_eq_succ_of_ne_zero (hfull (.inr rfl) hr)
    obtain ⟨ms, hms, hholds⟩ := (value_brace hr).1 h
    exact .inr (.inr (.inl ⟨room', r, ms, rfl, hr, hms, hholds⟩))
  · have hother : ∀ c ∈ (skipBlank cs).head?, c ≠ '"' ∧ c ≠ '[' ∧ c ≠ '\x7b' := by
      intro c hc
      obtain ⟨r, hr⟩ := List.head?_eq_some_iff.1 hc
      refine ⟨?_, ?_, ?_⟩
      · rintro rfl
        exact hquote ⟨r, hr⟩
      · rintro rfl
        exact hbracket ⟨r, hr⟩
      · rintro rfl
        exact hbrace ⟨r, hr⟩
    exact .inr (.inr (.inr (value_other hother ▸ h)))

/-- **One step along the items** of an array. -/
theorem items_ok_iff {js : List Json} : items room (fuel + 1) cs = .ok (js, rest) ↔
    ∃ j r, value room fuel cs = .ok (j, r) ∧
      (skipBlank r = ']' :: rest ∧ js = [j] ∨
        ∃ r' js', skipBlank r = ',' :: r' ∧ items room fuel r' = .ok (js', rest) ∧
          js = j :: js') := by
  rw [items, bind_eq_ok_iff]
  constructor
  · rintro ⟨⟨j, r⟩, hvalue, h⟩
    refine ⟨j, r, hvalue, ?_⟩
    dsimp only at h
    split at h
    · rename_i r' hr
      obtain ⟨⟨js', rest'⟩, hitems, hfound⟩ := bind_eq_ok_iff.1 h
      obtain ⟨rfl, rfl⟩ := Prod.mk.inj (Except.ok.inj hfound)
      exact .inr ⟨r', js', hr, hitems, rfl⟩
    · rename_i rest' hr
      obtain ⟨rfl, rfl⟩ := Prod.mk.inj (Except.ok.inj h)
      exact .inl ⟨hr, rfl⟩
    · cases h
  · rintro ⟨j, r, hvalue, ⟨hr, rfl⟩ | ⟨r', js', hr, hitems, rfl⟩⟩
    · exact ⟨_, hvalue, by simp only [hr]; rfl⟩
    · exact ⟨_, hvalue, by simp only [hr, hitems]; rfl⟩

/-- A name and what follows its colon. -/
def Names (cs : List Char) (name : Text) (r : List Char) : Prop :=
  ∃ r₁ r₂, skipBlank cs = '"' :: r₁ ∧ Reader.text r₁ = .ok (name, r₂) ∧ skipBlank r₂ = ':' :: r

/-- **One step along the members** of an object. -/
theorem members_ok_iff {ms : List (Text × Json)} : members room (fuel + 1) cs = .ok (ms, rest) ↔
    ∃ name j r₁ r, Names cs name r₁ ∧ value room fuel r₁ = .ok (j, r) ∧
      (skipBlank r = '\x7d' :: rest ∧ ms = [(name, j)] ∨
        ∃ r' ms', skipBlank r = ',' :: r' ∧ members room fuel r' = .ok (ms', rest) ∧
          ms = (name, j) :: ms') := by
  rw [members]
  constructor
  · intro h
    split at h
    · rename_i r₁ hquote
      obtain ⟨⟨name, r₂⟩, htext, h⟩ := bind_eq_ok_iff.1 h
      dsimp only at h
      split at h
      · rename_i r₃ hcolon
        obtain ⟨⟨j, r⟩, hvalue, h⟩ := bind_eq_ok_iff.1 h
        refine ⟨name, j, r₃, r, ⟨r₁, r₂, hquote, htext, hcolon⟩, hvalue, ?_⟩
        dsimp only at h
        split at h
        · rename_i r' hr
          obtain ⟨⟨ms', rest'⟩, hmembers, hfound⟩ := bind_eq_ok_iff.1 h
          obtain ⟨rfl, rfl⟩ := Prod.mk.inj (Except.ok.inj hfound)
          exact .inr ⟨r', ms', hr, hmembers, rfl⟩
        · rename_i rest' hr
          obtain ⟨rfl, rfl⟩ := Prod.mk.inj (Except.ok.inj h)
          exact .inl ⟨hr, rfl⟩
        · cases h
      · cases h
    · cases h
  · rintro ⟨name, j, r₁, r, ⟨r₂, r₃, hquote, htext, hcolon⟩, hvalue, h⟩
    rw [hquote]
    simp only [htext, bind, Except.bind, hcolon, hvalue]
    rcases h with ⟨hr, rfl⟩ | ⟨r', ms', hr, hmembers, rfl⟩
    · simp only [hr]
      rfl
    · simp only [hr, hmembers]
      rfl

end LintBundle.Json
