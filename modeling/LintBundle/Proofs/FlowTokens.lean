import LintBundle.Proofs.FlowStyle
import LintBundle.Proofs.FlowText
import LintBundle.Yaml.Tag.Reading

/-!
# Proofs/FlowTokens — the tokens of a text in flow style

    text ──Spells──▸ data ◂──Writes── tokens

Between flow brackets the lexer has a simple state (`Lexer.At`): no block is open and no key is
required, so its columns do not matter.  From one token to the next it is followed by what it
reaches with fuel enough for what is left of the text (`Lexer.Reaches`), and so a text that stands
for data is read as tokens that write the data (`Spells.lexes`). -/

namespace LintBundle.Yaml

open Json (Blank)

/-! ## The state of the lexer -/

/-- Glyphs that a text begins with, but for the blanks in front. -/
def Stands (gs : List Glyph) (cs : List Char) : Prop :=
  ∃ i l c x, gs = place i l c x ∧ unblanked x = unblanked cs

theorem Stands.append {gs : List Glyph} {b : List Char} (hb : Blank b) {cs : List Char} :
    Stands gs (b ++ cs) ↔ Stands gs cs := by
  rw [Stands, Stands, unblanked_append hb]

theorem stands_place (i l c : Nat) (cs : List Char) : Stands (place i l c cs) cs :=
  ⟨i, l, c, cs, rfl, rfl⟩

namespace Lexer

variable {lx : Lexer} {level : Nat} {ts : List Token} {cs : List Char}

/-- The lexer between flow brackets: no block is open, and no key is required. -/
structure At (lx : Lexer) (level : Nat) (ts : List Token) : Prop where
  flow : lx.flow = level
  tokens : lx.tokens = ts
  count : lx.count = ts.length
  blocks : lx.blocks = []
  keys : ∀ e ∈ lx.keys, e.2.isRequired = false

/-- The lexer in front of a text. -/
structure Before (lx : Lexer) (level : Nat) (ts : List Token) (cs : List Char) : Prop where
  at_ : lx.At level ts
  stands : Stands lx.rest cs

/-- What the lexer reaches, with fuel enough for what is left of the text. -/
def Reaches (lx : Lexer) (P : Lexer → Prop) : Prop :=
  ∀ fuel, lx.rest.length < fuel → ∃ lx' fuel', P lx' ∧ lx'.rest.length < fuel' ∧
    lx.run fuel = lx'.run fuel'

theorem Reaches.done {P : Lexer → Prop} (h : P lx) : lx.Reaches P :=
  fun fuel hfuel => ⟨lx, fuel, h, hfuel, rfl⟩

theorem Reaches.next {P Q : Lexer → Prop} (h : lx.Reaches P) (h' : ∀ lx', P lx' → lx'.Reaches Q) :
    lx.Reaches Q := by
  intro fuel hfuel
  obtain ⟨lx₁, fuel₁, hp, hfuel₁, hrun⟩ := h fuel hfuel
  obtain ⟨lx₂, fuel₂, hq, hfuel₂, hrun'⟩ := h' lx₁ hp fuel₁ hfuel₁
  exact ⟨lx₂, fuel₂, hq, hfuel₂, hrun.trans hrun'⟩

theorem Reaches.mono {P Q : Lexer → Prop} (h : lx.Reaches P) (h' : ∀ lx', P lx' → Q lx') :
    lx.Reaches Q :=
  h.next fun lx' hp => .done (h' lx' hp)

/-! ## Keys that could have begun -/

theorem dropStale_eq (h : ∀ e ∈ lx.keys, e.2.isRequired = false) :
    lx.dropStale = .ok { lx with keys := lx.keys.filter fun e => lx.isFresh e.2 } := by
  rw [Lexer.dropStale, if_neg]
  simp only [List.any_eq_true, Bool.and_eq_true, not_exists, not_and]
  intro e he _
  simp [h e he]

theorem dropKey_eq (h : ∀ e ∈ lx.keys, e.2.isRequired = false) :
    lx.dropKey = .ok { lx with keys := lx.keys.filter fun e => e.1 ≠ lx.flow } := by
  rw [Lexer.dropKey, if_neg]
  simp only [List.any_eq_true, Bool.and_eq_true, not_exists, not_and]
  intro e he _
  simp [h e he]

theorem At.filter (h : lx.At level ts) (p : Nat × KeyPlace → Bool) :
    At { lx with keys := lx.keys.filter p } level ts :=
  ⟨h.flow, h.tokens, h.count, h.blocks, fun e he => h.keys e (List.mem_filter.1 he).1⟩

/-- Where a key may begin, it is remembered. -/
theorem At.saveKey (h : lx.At level ts) {i l c : Nat} {x : List Char}
    (hrest : lx.rest = place i l c x) : ∃ keys,
    lx.saveKey = .ok { lx with keys := keys } ∧ (∀ e ∈ keys, e.2.isRequired = false) ∧
      (lx.keyAllowed = true → ∃ others, keys = (level, ⟨ts.length, false, i, l, c⟩) :: others) := by
  by_cases hallowed : lx.keyAllowed = true
  · rw [place_eq] at hrest
    refine ⟨(level, ⟨ts.length, false, i, l, c⟩) :: lx.keys.filter fun e => e.1 ≠ lx.flow,
      ?_, ?_, fun _ => ⟨_, rfl⟩⟩
    · rw [Lexer.saveKey, if_pos hallowed, dropKey_eq h.keys]
      simp [bind, Except.bind, hrest, h.blocks, h.flow, h.count, pure, Except.pure]
    · exact List.forall_mem_cons.2 ⟨rfl, fun e he => h.keys e (List.mem_filter.1 he).1⟩
  · refine ⟨lx.keys, ?_, h.keys, fun hno => absurd hno hallowed⟩
    rw [Lexer.saveKey, if_neg hallowed]

/-! ## Between tokens -/

/-- The lexer in front of its next token, having come there from an earlier place. -/
structure Arrives (lx lx₁ : Lexer) (level : Nat) (ts : List Token) (index line column : Nat)
    (x : List Char) : Prop where
  at_ : lx₁.At level ts
  rest : lx₁.rest = place index line column x
  keyAllowed : level ≠ 0 → lx₁.keyAllowed = lx.keyAllowed
  keys : lx₁.keys = lx.keys.filter fun e => lx₁.isFresh e.2

/-- No block is open that a column could close. -/
theorem At.closeTo (h : lx.At level ts) (column : Nat) : lx.closeTo column = lx := by
  rw [Lexer.closeTo]
  split
  · rw [h.blocks]
    simp [splitBlocks, closeBlocks, ← h.blocks]
  · rfl

theorem At.closeAll (h : lx.At level ts) : lx.closeAll = lx := by
  rw [Lexer.closeAll]
  split
  · rw [h.blocks, List.length_nil, ← h.blocks]
    rfl
  · rfl

/-- **The lexer moves on to the next token.** -/
theorem At.advance (fuel : Nat) (h : lx.At level ts) {i l c : Nat} {b x : List Char}
    (hrest : lx.rest = place i l c (b ++ x)) (hb : Blank b) (hx : IsSolid (firstOf x))
    (hfuel : b.length < fuel) : ∃ lx₁ l' c', lx.advance fuel = .ok lx₁ ∧
      Arrives lx lx₁ level ts (i + b.length) l' c' x ∧ ((∀ d ∈ b, d = ' ') → l' = l) := by
  obtain ⟨allowed, l', c', hskip, hallowed, hline⟩ :=
    skipGap_place hb hx (lx.flow ≠ 0) lx.keyAllowed hfuel i l c
  let moved : Lexer := { lx with rest := place (i + b.length) l' c' x, keyAllowed := allowed }
  have hmoved : moved.At level ts := ⟨h.flow, h.tokens, h.count, h.blocks, h.keys⟩
  have hfilter := hmoved.filter fun e => moved.isFresh e.2
  refine ⟨_, l', c', ?_, ⟨hfilter, rfl, fun hlevel => ?_, rfl⟩, hline⟩
  · rw [Lexer.advance, hrest, hskip]
    change (do let lx ← moved.dropStale; return lx.closeTo lx.column) = _
    rw [dropStale_eq hmoved.keys]
    exact congrArg Except.ok (hfilter.closeTo _)
  · exact hallowed (by simpa [h.flow] using hlevel)

/-- **One token is found** after the blanks in front of it. -/
theorem reaches_token (h : lx.At level ts) {i l c : Nat} {b x : List Char}
    (hrest : lx.rest = place i l c (b ++ x)) (hb : Blank b) (hx : IsSolid (firstOf x))
    (hend : firstOf x ≠ endMark) {P : Lexer → Prop}
    (hnext : ∀ (lx₁ : Lexer) (fuel l' c' : Nat), Arrives lx lx₁ level ts (i + b.length) l' c' x →
      ((∀ d ∈ b, d = ' ') → l' = l) → x.length < fuel →
      ∃ lx₂ : Lexer, lx₁.next fuel = .ok lx₂ ∧ (∀ e ∈ lx₂.keys, e.2.isRequired = false) ∧
        lx₂.rest.length ≤ x.length ∧
        P { lx₂ with keys := lx₂.keys.filter fun e => lx₂.isFresh e.2 }) :
    lx.Reaches P := by
  intro fuel hfuel
  rw [hrest, length_place, List.length_append] at hfuel
  obtain ⟨fuel, rfl⟩ := Nat.exists_eq_succ_of_ne_zero (Nat.ne_of_gt (Nat.zero_lt_of_lt hfuel))
  obtain ⟨lx₁, l', c', hadvance, harrives, hline⟩ := h.advance fuel hrest hb hx (by omega)
  obtain ⟨lx₂, hlx₂, hkeys₂, hlength, hp⟩ := hnext lx₁ fuel l' c' harrives hline (by omega)
  refine ⟨_, fuel, hp, ?_, ?_⟩
  · change lx₂.rest.length < fuel
    omega
  · have hfront : ¬ front lx₁.rest = endMark := by rwa [harrives.rest, front_place]
    rw [Nat.succ_eq_add_one, Lexer.run]
    simp only [bind, Except.bind, hadvance, if_neg hfront, hlx₂, dropStale_eq hkeys₂]
    rfl

/-! ## The tokens -/

/-- A text that the lexer is in front of, behind blanks. -/
theorem Before.place (h : lx.Before level ts cs) : ∃ i l c b, Blank b ∧
    lx.rest = Yaml.place i l c (b ++ unblanked cs) := by
  obtain ⟨-, i, l, c, x, hrest, hx⟩ := h
  obtain ⟨b, hb, heq⟩ := exists_unblanked x
  exact ⟨i, l, c, b, hb, by rw [hrest, ← hx, ← heq]⟩

theorem Before.skip {b : List Char} (hb : Blank b) :
    lx.Before level ts (b ++ cs) ↔ lx.Before level ts cs :=
  ⟨fun h => ⟨h.at_, (Stands.append hb).1 h.stands⟩, fun h => ⟨h.at_, (Stands.append hb).2 h.stands⟩⟩

theorem unblanked_solid {x : List Char} (h : IsSolid (firstOf x)) : unblanked x = x := by
  cases x with
  | nil => rfl
  | cons d x =>
    have hspace : d ≠ ' ' := h.1
    have hbreak : isBreak d = false := h.2.1
    have hnewline : d ≠ '\n' := by
      rintro rfl
      cases hbreak
    rw [unblanked, List.dropWhile_cons_of_neg (by simp [hspace, hnewline])]

/-- **A mark is found**: a token of one character, whose effect on the lexer is known. -/
theorem reaches_mark {mark : Char} {cs : List Char} (h : lx.Before level ts (mark :: cs))
    (hmark : IsSolid mark) (hend : mark ≠ endMark) {level' : Nat} {t : Token}
    {P : Bool → Prop} (hnext : ∀ (lx₁ : Lexer) (fuel i l c : Nat), lx₁.At level ts →
      lx₁.rest = Yaml.place i l c (mark :: cs) → front lx₁.rest = mark →
      ∃ lx₂ : Lexer, lx₁.next fuel = .ok lx₂ ∧ lx₂.At level' (t :: ts) ∧
        lx₂.rest = lx₁.rest.drop 1 ∧ P lx₂.keyAllowed) :
    lx.Reaches fun lx' => lx'.Before level' (t :: ts) cs ∧ P lx'.keyAllowed := by
  obtain ⟨i, l, c, b, hb, hrest⟩ := h.place
  rw [unblanked_solid (x := mark :: cs) hmark] at hrest
  refine reaches_token h.at_ hrest hb hmark hend fun lx₁ fuel l' c' harrives _ _ => ?_
  obtain ⟨l₁, c₁, hplace, -⟩ := place_cons (i + b.length) l' c' mark cs
  obtain ⟨lx₂, hlx₂, hat₂, hrest₂, hp⟩ := hnext lx₁ fuel _ l' c' harrives.at_ harrives.rest
    (by rw [harrives.rest]; rfl)
  rw [harrives.rest, hplace] at hrest₂
  refine ⟨lx₂, hlx₂, hat₂.keys, ?_, ⟨hat₂.filter _, ?_⟩, hp⟩
  · rw [hrest₂]
    simp [length_place]
  · change Stands lx₂.rest cs
    rw [hrest₂]
    exact stands_place _ _ _ _

/-- A mark that is no beginning of a line on its own is looked up by itself. -/
theorem startsMarker_of_front {gs : List Glyph} {c d : Char} (h : front gs = c) (hne : c ≠ d) :
    startsMarker d gs = false := by
  have hahead : ahead 0 gs ≠ d := by
    rw [ahead, List.drop_zero, h]
    exact hne
  simp [startsMarker, hahead]

theorem At.openFlow (h : lx.At level ts) {i l c : Nat} {x : List Char}
    (hrest : lx.rest = Yaml.place i l c x) (t : Token) : ∃ lx₂ : Lexer, lx.openFlow t = .ok lx₂ ∧
      lx₂.At (level + 1) (t :: ts) ∧ lx₂.rest = lx.rest.drop 1 ∧ lx₂.keyAllowed = true := by
  obtain ⟨keys, hsave, hkeys, -⟩ := h.saveKey hrest
  rw [Lexer.openFlow, hsave]
  refine ⟨_, rfl, ⟨?_, ?_, ?_, h.blocks, hkeys⟩, rfl, rfl⟩
  · exact congrArg (· + 1) h.flow
  · exact congrArg (t :: ·) h.tokens
  · exact congrArg (· + 1) h.count

theorem At.closeFlow (h : lx.At (level + 1) ts) (t : Token) : ∃ lx₂ : Lexer,
    lx.closeFlow t = .ok lx₂ ∧ lx₂.At level (t :: ts) ∧ lx₂.rest = lx.rest.drop 1 := by
  have hflow := h.flow
  rw [Lexer.closeFlow, dropKey_eq h.keys]
  simp only [bind, Except.bind, hflow]
  refine ⟨_, rfl, ⟨rfl, ?_, ?_, h.blocks, ?_⟩, rfl⟩
  · exact congrArg (t :: ·) h.tokens
  · exact congrArg (· + 1) h.count
  · exact fun e he => h.keys e (List.mem_filter.1 he).1

theorem At.comma (h : lx.At level ts) : ∃ lx₂ : Lexer, lx.comma = .ok lx₂ ∧
    lx₂.At level (.comma :: ts) ∧ lx₂.rest = lx.rest.drop 1 ∧ lx₂.keyAllowed = true := by
  rw [Lexer.comma, dropKey_eq h.keys]
  refine ⟨_, rfl, ⟨h.flow, ?_, ?_, h.blocks, ?_⟩, rfl, rfl⟩
  · exact congrArg (_ :: ·) h.tokens
  · exact congrArg (· + 1) h.count
  · exact fun e he => h.keys e (List.mem_filter.1 he).1

/-- The marks of flow collections, by their characters. -/
theorem next_openArray {fuel : Nat} (h : front lx.rest = '[') :
    lx.next fuel = lx.openFlow .flowSequence := by
  simp [Lexer.next, h, startsMarker_of_front h]

theorem next_openObject {fuel : Nat} (h : front lx.rest = '\x7b') :
    lx.next fuel = lx.openFlow .flowMapping := by
  simp [Lexer.next, h, startsMarker_of_front h]

theorem next_closeArray {fuel : Nat} (h : front lx.rest = ']') :
    lx.next fuel = lx.closeFlow .flowSequenceEnd := by
  simp [Lexer.next, h, startsMarker_of_front h]

theorem next_closeObject {fuel : Nat} (h : front lx.rest = '\x7d') :
    lx.next fuel = lx.closeFlow .flowMappingEnd := by
  simp [Lexer.next, h, startsMarker_of_front h]

theorem next_comma {fuel : Nat} (h : front lx.rest = ',') : lx.next fuel = lx.comma := by
  simp [Lexer.next, h, startsMarker_of_front h]

/-- An array begins. -/
theorem reaches_openArray (h : lx.Before level ts ('[' :: cs)) : lx.Reaches fun lx' =>
    lx'.Before (level + 1) (.flowSequence :: ts) cs ∧ lx'.keyAllowed = true := by
  refine reaches_mark (P := (· = true)) h (by decide) (by decide)
    fun lx₁ fuel i l c hat hrest hfront => ?_
  rw [next_openArray hfront]
  exact hat.openFlow hrest _

theorem reaches_openObject (h : lx.Before level ts ('\x7b' :: cs)) : lx.Reaches fun lx' =>
    lx'.Before (level + 1) (.flowMapping :: ts) cs ∧ lx'.keyAllowed = true := by
  refine reaches_mark (P := (· = true)) h (by decide) (by decide)
    fun lx₁ fuel i l c hat hrest hfront => ?_
  rw [next_openObject hfront]
  exact hat.openFlow hrest _

/-- An array ends. -/
theorem reaches_closeArray (h : lx.Before (level + 1) ts (']' :: cs)) : lx.Reaches fun lx' =>
    lx'.Before level (.flowSequenceEnd :: ts) cs := by
  refine (reaches_mark (P := fun _ => True) h (by decide) (by decide)
    fun lx₁ fuel i l c hat hrest hfront => ?_).mono fun _ h => h.1
  rw [next_closeArray hfront]
  obtain ⟨lx₂, hlx₂, hat₂, hrest₂⟩ := hat.closeFlow .flowSequenceEnd
  exact ⟨lx₂, hlx₂, hat₂, hrest₂, trivial⟩

theorem reaches_closeObject (h : lx.Before (level + 1) ts ('\x7d' :: cs)) : lx.Reaches fun lx' =>
    lx'.Before level (.flowMappingEnd :: ts) cs := by
  refine (reaches_mark (P := fun _ => True) h (by decide) (by decide)
    fun lx₁ fuel i l c hat hrest hfront => ?_).mono fun _ h => h.1
  rw [next_closeObject hfront]
  obtain ⟨lx₂, hlx₂, hat₂, hrest₂⟩ := hat.closeFlow .flowMappingEnd
  exact ⟨lx₂, hlx₂, hat₂, hrest₂, trivial⟩

/-- Another item follows. -/
theorem reaches_comma (h : lx.Before level ts (',' :: cs)) : lx.Reaches fun lx' =>
    lx'.Before level (.comma :: ts) cs ∧ lx'.keyAllowed = true := by
  refine reaches_mark (P := (· = true)) h (by decide) (by decide)
    fun lx₁ fuel i l c hat hrest hfront => ?_
  rw [next_comma hfront]
  exact hat.comma

/-! ## Words and quoted texts -/

theorem ahead_place (n i l c : Nat) (x : List Char) :
    ahead n (Yaml.place i l c x) = firstOf (x.drop n) := by
  induction n generalizing i l c x with
  | zero => exact front_place i l c x
  | succ n ih =>
    cases x with
    | nil => simp [ahead, Yaml.place, front, firstOf]
    | cons d x =>
      obtain ⟨l', c', hplace, -⟩ := place_cons i l c d x
      rw [hplace, ahead, List.drop_succ_cons, List.drop_succ_cons]
      exact ih _ _ _ _

/-- No letter or digit is a blank. -/
theorem isGap_alphanum {c : Char} (h : c.isAlphanum = true) : isGap c = false := by
  have hword : isWordChar c = true := by simp [isWordChar, h]
  have hends := endsPlain_wordChar hword false ' '
  simp only [endsPlain, Bool.or_eq_false_iff] at hends
  exact hends.1.1

/-- A letter or a digit begins a plain scalar, whatever follows it. -/
theorem startsPlain_alphanum {c : Char} (h : c.isAlphanum = true) (inFlow : Bool) (next : Char) :
    startsPlain inFlow c next = true := by
  have hall : ("-?:,[]\x7b\x7d#&*!|>'\"%@`".toList.all fun d => !d.isAlphanum) = true := rfl
  have hmark : "-?:,[]\x7b\x7d#&*!|>'\"%@`".toList.contains c = false := by
    by_contra hno
    rw [Bool.not_eq_false, List.contains_iff_mem] at hno
    have hnone := List.all_eq_true.1 hall _ hno
    rw [h] at hnone
    cases hnone
  rw [startsPlain, isGap_alphanum h, hmark]
  rfl

/-- A minus sign is one of a number, so a letter or digit follows it. -/
theorem IsWord.ahead_minus {w rest : List Char} {i l c : Nat} (hw : IsWord w)
    (h : firstOf w = '-') : (ahead 1 (Yaml.place i l c (w ++ rest))).isAlphanum = true := by
  obtain ⟨-, hnext⟩ := hw.begins.resolve_left (by rw [h]; decide)
  rw [ahead_place, List.drop_append_of_le_length (List.length_pos_iff.2 hw.ne_nil), firstOf_append]
  · exact hnext
  · intro hnil
    rw [hnil] at hnext
    cases hnext

/-- What begins a word begins no other token. -/
theorem next_word {w rest : List Char} {i l c fuel : Nat} (hw : IsWord w)
    (hrest : lx.rest = Yaml.place i l c (w ++ rest)) : lx.next fuel = lx.plainScalar fuel := by
  have hfront : front lx.rest = firstOf w := by
    rw [hrest, front_place, firstOf_append hw.ne_nil]
  have hne := fun d (hd : d.isAlphanum = false) hminus => hw.first_ne (d := d) hd hminus
  have hahead : firstOf w = '-' → (ahead 1 lx.rest).isAlphanum = true := fun h =>
    hrest ▸ IsWord.ahead_minus hw h
  have hgap : firstOf w = '-' → isGap (ahead 1 lx.rest) = false := fun h =>
    isGap_alphanum (hahead h)
  have hdashes : startsMarker '-' lx.rest = false := by
    by_cases h : firstOf w = '-'
    · have hno : ahead 1 lx.rest ≠ '-' := fun hno => by cases hno ▸ hahead h
      simp [startsMarker, hno]
    · exact startsMarker_of_front hfront h
  have hdots := startsMarker_of_front hfront (hne '.' rfl (by decide))
  have hentry : (firstOf w = '-' && isGap (ahead 1 lx.rest) : Bool) = false := by
    by_cases h : firstOf w = '-'
    · simp [hgap h]
    · simp [h]
  have hstarts : ∀ inFlow, startsPlain inFlow (firstOf w) (ahead 1 lx.rest) = true := by
    intro inFlow
    rcases hw.begins with h | ⟨h, -⟩
    · exact startsPlain_alphanum h ..
    · simp [startsPlain, h, hgap h]
  simp [Lexer.next, hfront, hdashes, hdots, hentry, hstarts, hne '%' rfl (by decide),
    hne '[' rfl (by decide), hne '\x7b' rfl (by decide), hne ']' rfl (by decide),
    hne '\x7d' rfl (by decide), hne ',' rfl (by decide), hne '?' rfl (by decide),
    hne ':' rfl (by decide), hne '*' rfl (by decide), hne '&' rfl (by decide),
    hne '!' rfl (by decide), hne '|' rfl (by decide), hne '>' rfl (by decide),
    hne '\'' rfl (by decide), hne '"' rfl (by decide)]

theorem next_quoted {fuel : Nat} (h : front lx.rest = '"') :
    lx.next fuel = lx.quotedScalar fuel true := by
  simp [Lexer.next, h, startsMarker_of_front h]

theorem next_colon {fuel : Nat} (h : front lx.rest = ':') (hflow : lx.flow ≠ 0) :
    lx.next fuel = lx.value := by
  simp [Lexer.next, h, startsMarker_of_front h, hflow]

theorem IsWord.solid {w : List Char} (h : IsWord w) (rest : List Char) :
    IsSolid (firstOf (w ++ rest)) ∧ firstOf (w ++ rest) ≠ endMark := by
  rw [firstOf_append h.ne_nil]
  have hne := fun d (hd : d.isAlphanum = false) hminus => h.first_ne (d := d) hd hminus
  refine ⟨⟨hne ' ' rfl (by decide), ?_, hne '#' rfl (by decide)⟩, hne endMark rfl (by decide)⟩
  simp [isBreak, hne '\n' rfl (by decide), hne '\u2028' rfl (by decide),
    hne '\u2029' rfl (by decide)]

/-- A token is added to the others. -/
theorem At.emit (h : lx.At level ts) {keys : List (Nat × KeyPlace)}
    (hkeys : ∀ e ∈ keys, e.2.isRequired = false) (keyAllowed : Bool) (t : Token)
    (rest : List Glyph) :
    At ({ lx with keys := keys, keyAllowed := keyAllowed }.emit t rest) level (t :: ts) :=
  ⟨h.flow, congrArg (t :: ·) h.tokens, congrArg (· + 1) h.count, h.blocks, hkeys⟩

/-- What is left behind a token and what the next one stands at. -/
theorem length_unblanked_le (cs : List Char) : (unblanked cs).length ≤ cs.length :=
  (List.dropWhile_sublist _).length_le

@[simp] theorem unblanked_unblanked (cs : List Char) : unblanked (unblanked cs) = unblanked cs := by
  obtain ⟨b, hb, heq⟩ := exists_unblanked cs
  conv_rhs => rw [heq, unblanked_append hb]

/-- A word is read in its place, with the gap behind it. -/
theorem At.plainScalar (h : lx.At level ts) {w b x : List Char} (hw : IsWord w) (hb : Blank b)
    (hx : Closes (level ≠ 0) x) {i l c : Nat} (hrest : lx.rest = Yaml.place i l c (w ++ (b ++ x)))
    (fuel : Nat) : ∃ lx₂ : Lexer, ∃ l' c', lx.plainScalar (fuel + 1) = .ok lx₂ ∧
      lx₂.At level (.scalar (w.map .char) true :: ts) ∧
      lx₂.rest = Yaml.place (i + w.length + b.length) l' c' x := by
  obtain ⟨keys, hsave, hkeys, -⟩ := h.saveKey hrest
  obtain ⟨crosses, l', c', hplain⟩ := plain_place hw hb hx fuel i l c
  refine ⟨_, l', c', ?_, h.emit hkeys crosses (.scalar (w.map .char) true)
    (Yaml.place (i + w.length + b.length) l' c' x), rfl⟩
  have hflow : (lx.flow ≠ 0 : Bool) = (level ≠ 0 : Bool) := by rw [h.flow]
  rw [Lexer.plainScalar, hsave]
  simp only [bind, Except.bind, hrest, h.blocks, hflow, hplain]
  rfl

/-- **A word is a plain scalar.** -/
theorem reaches_word {w rest : List Char} (hw : IsWord w)
    (h : lx.Before level ts (w ++ rest)) (hclose : Closes (level ≠ 0) (unblanked rest)) :
    lx.Reaches fun lx' => lx'.Before level (.scalar (w.map .char) true :: ts) rest := by
  obtain ⟨i, l, c, b, hb, hrest⟩ := h.place
  obtain ⟨hsolid, hend⟩ := IsWord.solid hw rest
  rw [unblanked_solid hsolid] at hrest
  obtain ⟨b', hb', hblanks⟩ := exists_unblanked rest
  refine reaches_token h.at_ hrest hb hsolid hend fun lx₁ fuel l' c' harrives _ hfuel => ?_
  obtain ⟨fuel, rfl⟩ := Nat.exists_eq_succ_of_ne_zero (Nat.ne_of_gt (Nat.zero_lt_of_lt hfuel))
  have hword := harrives.rest
  rw [hblanks] at hword
  obtain ⟨lx₂, l₂, c₂, hlx₂, hat₂, hrest₂⟩ := harrives.at_.plainScalar hw hb' hclose hword fuel
  refine ⟨lx₂, ?_, hat₂.keys, ?_, hat₂.filter _, ?_⟩
  · rw [Nat.succ_eq_add_one, next_word hw hword, hlx₂]
  · have hlength := length_unblanked_le rest
    have hpos := List.length_pos_iff.2 hw.ne_nil
    rw [hrest₂, length_place, List.length_append]
    omega
  · exact ⟨_, l₂, c₂, unblanked rest, hrest₂, unblanked_unblanked rest⟩

/-- A quoted text is read in its place, where a key may have begun. -/
theorem At.quotedScalar (fuel : Nat) (h : lx.At level ts) {raw rest : List Char} {text : List Point}
    (hq : Quotes raw text) {i l c : Nat}
    (hrest : lx.rest = Yaml.place i l c ('"' :: (raw ++ '"' :: rest)))
    (hfuel : raw.length < fuel) :
    ∃ lx₂ : Lexer, ∃ c', lx.quotedScalar fuel true = .ok lx₂ ∧
      lx₂.At level (.scalar text false :: ts) ∧
      lx₂.rest = Yaml.place (i + raw.length + 2) l c' rest ∧
      (lx.keyAllowed = true →
        ∃ others, lx₂.keys = (level, ⟨ts.length, false, i, l, c⟩) :: others) := by
  obtain ⟨keys, hsave, hkeys, hfirst⟩ := h.saveKey hrest
  obtain ⟨l₁, c₁, hplace, hline⟩ := place_cons i l c '"' (raw ++ '"' :: rest)
  obtain ⟨c', hquoted⟩ := quoted_place fuel hq hfuel rest (i + 1) l₁ c₁
  have hindex : i + 1 + raw.length + 1 = i + raw.length + 2 := by omega
  rw [hline rfl, hindex] at hquoted
  refine ⟨_, c', ?_, h.emit hkeys false (.scalar text false)
    (Yaml.place (i + raw.length + 2) l c' rest), rfl, hfirst⟩
  rw [Lexer.quotedScalar, Lexer.piece, hsave]
  rw [hline rfl] at hplace
  simp only [bind, Except.bind, hrest, hplace, List.drop_succ_cons, List.drop_zero, hquoted]
  rfl

theorem isFresh_of_place {key : KeyPlace} {i l c : Nat} {x : List Char}
    (hrest : lx.rest = Yaml.place i l c x) (hline : key.line = l) (hindex : i ≤ key.index + 1024) :
    lx.isFresh key = true := by
  rw [place_eq] at hrest
  simp [isFresh, hrest, hline, hindex]

/-- **A quoted text is a scalar that is not plain**; it can still become a key if one was allowed
there and it is short enough. -/
theorem reaches_quotedKey {raw rest : List Char} {text : List Point} (hq : Quotes raw text)
    (h : lx.Before level ts ('"' :: (raw ++ '"' :: rest))) :
    lx.Reaches fun lx' => lx'.At level (.scalar text false :: ts) ∧
      ∃ i l c c', lx'.rest = Yaml.place (i + raw.length + 2) l c' rest ∧
        (level ≠ 0 → lx.keyAllowed = true → raw.length + 2 ≤ 1024 →
          ∃ others, lx'.keys = (level, ⟨ts.length, false, i, l, c⟩) :: others) := by
  obtain ⟨i, l, c, b, hb, hrest⟩ := h.place
  have hsolid : IsSolid '"' := by decide
  have hend : '"' ≠ endMark := by decide
  rw [unblanked_solid (x := '"' :: (raw ++ '"' :: rest)) hsolid] at hrest
  refine reaches_token h.at_ hrest hb hsolid hend fun lx₁ fuel l' c' harrives _ hfuel => ?_
  simp only [List.length_cons, List.length_append] at hfuel
  obtain ⟨lx₂, c₂, hlx₂, hat₂, hrest₂, hkey⟩ :=
    harrives.at_.quotedScalar fuel hq harrives.rest (by omega)
  refine ⟨lx₂, ?_, hat₂.keys, ?_, hat₂.filter _, i + b.length, l', c', c₂, hrest₂,
    fun hlevel hallowed hlength => ?_⟩
  · rw [next_quoted (by rw [harrives.rest]; rfl), hlx₂]
  · rw [hrest₂, length_place]
    simp only [List.length_cons, List.length_append]
    omega
  · obtain ⟨others, hkeys⟩ := hkey ((harrives.keyAllowed hlevel).trans hallowed)
    refine ⟨others.filter fun e => lx₂.isFresh e.2, ?_⟩
    dsimp only
    rw [hkeys, List.filter_cons_of_pos]
    exact isFresh_of_place hrest₂ rfl (by dsimp only; omega)

theorem reaches_quoted {raw rest : List Char} {text : List Point} (hq : Quotes raw text)
    (h : lx.Before level ts ('"' :: (raw ++ '"' :: rest))) :
    lx.Reaches fun lx' => lx'.Before level (.scalar text false :: ts) rest :=
  (reaches_quotedKey hq h).mono fun _ ⟨hat, _, _, _, _, hrest, _⟩ =>
    ⟨hat, hrest ▸ stands_place _ _ _ _⟩

/-! ## Names of members -/

/-- A colon makes the token in front of it a key, which is remembered as one. -/
theorem At.value {t : Token} (h : lx.At level (t :: ts)) (hlevel : level ≠ 0) {key : KeyPlace}
    {others : List (Nat × KeyPlace)} (hkeys : lx.keys = (level, key) :: others)
    (htoken : key.token = ts.length) : ∃ lx₂ : Lexer, lx.value = .ok lx₂ ∧
      lx₂.At level (.value :: t :: .key :: ts) ∧ lx₂.rest = lx.rest.drop 1 := by
  have hlater : lx.count - key.token = 1 := by
    rw [h.count, htoken, List.length_cons]
    omega
  rw [Lexer.value]
  simp only [hkeys, h.flow, List.find?_cons, decide_true, insertAt, hlater, h.tokens, hlevel,
    decide_false, Bool.false_and, Bool.false_eq_true, if_false]
  refine ⟨_, rfl, ⟨rfl, rfl, ?_, h.blocks, ?_⟩, rfl⟩
  · exact congrArg (· + 2) h.count
  · exact fun e he => h.keys e (hkeys ▸ (List.mem_filter.1 he).1)

/-- **A quoted text in front of a colon is a key**, if both stand on one line and near enough. -/
theorem reaches_name {raw s rest : List Char} {text : List Point} (hq : Quotes raw text)
    (hs : ∀ d ∈ s, d = ' ')
    (hlength : raw.length + 2 + s.length ≤ 1024) (hlevel : level ≠ 0)
    (hallowed : lx.keyAllowed = true)
    (h : lx.Before level ts ('"' :: (raw ++ '"' :: (s ++ ':' :: rest)))) :
    lx.Reaches fun lx' => lx'.Before level (.value :: .scalar text false :: .key :: ts) rest := by
  refine (reaches_quotedKey hq h).next fun lx₁ ⟨hat₁, i, l, c, c', hrest₁, hkey⟩ => ?_
  obtain ⟨others, hkeys₁⟩ := hkey hlevel hallowed (by omega)
  have hblanks : Blank s := fun d hd => .inl (hs d hd)
  have hcolon : ':' ≠ endMark := by decide
  refine reaches_token hat₁ hrest₁ hblanks (x := ':' :: rest) (by decide : IsSolid ':') hcolon
    fun lx₂ fuel l' c₂ harrives hline _ => ?_
  have hkeys₂ : ∃ others, lx₂.keys = (level, ⟨ts.length, false, i, l, c⟩) :: others := by
    rw [harrives.keys, hkeys₁, List.filter_cons_of_pos]
    · exact ⟨_, rfl⟩
    · exact isFresh_of_place harrives.rest (hline hs).symm (by dsimp only; omega)
  obtain ⟨others₂, hkeys₂⟩ := hkeys₂
  obtain ⟨lx₃, hlx₃, hat₃, hrest₃⟩ := harrives.at_.value hlevel hkeys₂ rfl
  obtain ⟨l₃, c₃, hplace, -⟩ := place_cons (i + raw.length + 2 + s.length) l' c₂ ':' rest
  rw [harrives.rest, hplace] at hrest₃
  refine ⟨lx₃, ?_, hat₃.keys, ?_, hat₃.filter _, ?_⟩
  · have hflow : lx₂.flow ≠ 0 := by rwa [harrives.at_.flow]
    rw [next_colon (by rw [harrives.rest]; rfl) hflow, hlx₃]
  · rw [hrest₃]
    simp [length_place]
  · exact hrest₃ ▸ stands_place _ _ _ _

/-! ## The end of the text -/

/-- At the end of the text the tokens are complete. -/
theorem Before.run (h : lx.Before 0 ts []) {fuel : Nat} (hfuel : lx.rest.length < fuel) :
    ∃ lx', lx.run fuel = (lx', none) ∧ lx'.tokens = ts := by
  obtain ⟨i, l, c, b, hb, hrest⟩ := h.place
  have hnil : unblanked [] = [] := rfl
  rw [hnil] at hrest
  have hblanks : b.length + 1 < fuel := by
    rw [hrest, length_place, List.append_nil] at hfuel
    exact hfuel
  obtain ⟨fuel, rfl⟩ := Nat.exists_eq_succ_of_ne_zero (Nat.ne_of_gt (Nat.zero_lt_of_lt hblanks))
  obtain ⟨lx₁, l', c', hadvance, harrives, -⟩ :=
    h.at_.advance fuel hrest hb (by decide) (by omega)
  have hfront : front lx₁.rest = endMark := by rw [harrives.rest, front_place]; rfl
  have hfinish : ∃ lx₂, lx₁.finish = .ok lx₂ ∧ lx₂.tokens = ts := by
    rw [finish, harrives.at_.closeAll, dropKey_eq harrives.at_.keys]
    exact ⟨_, rfl, harrives.at_.tokens⟩
  obtain ⟨lx₂, hlx₂, htokens⟩ := hfinish
  refine ⟨lx₂, ?_, htokens⟩
  rw [Nat.succ_eq_add_one, Lexer.run]
  simp only [bind, Except.bind, hadvance, if_pos hfront, hlx₂]
  rfl

end Lexer

open Lexer

/-! ## Data as texts and as tokens -/

/-- **The dialect of the lexer**, as far as it spells JSON data: plain scalars are single words, and
a name that is a key ends on its line, soon enough. -/
def flow : Dialect where
  blank c := c = ' ' ∨ c = '\n'
  word w j := IsWord w ∧ (Tag.ofSpelling w).read (w.map .char) = .ok j.toValue
  quotes := Quotes
  name raw s := (∀ d ∈ s, d = ' ') ∧ raw.length + 2 + s.length ≤ 1024

/-- **Tokens that write JSON data.** -/
inductive Writes : Form → List Token → Prop
  | word {w : List Char} {j : Json} (h : (Tag.ofSpelling w).read (w.map .char) = .ok j.toValue) :
      Writes (.data j) [.scalar (w.map .char) true]
  | quoted (text : List Point) : Writes (.data (.str (.ofList text))) [.scalar text false]
  | noItems : Writes (.data (.array [])) [.flowSequence, .flowSequenceEnd]
  | array {js : List Json} {ts : List Token} (h : Writes (.items js) ts) :
      Writes (.data (.array js)) (.flowSequence :: (ts ++ [.flowSequenceEnd]))
  | lastItem {j : Json} {ts : List Token} (h : Writes (.data j) ts) : Writes (.items [j]) ts
  | item {j : Json} {js : List Json} {ts ts' : List Token} (h : Writes (.data j) ts)
      (h' : Writes (.items js) ts') : Writes (.items (j :: js)) (ts ++ .comma :: ts')
  | noMembers : Writes (.data (.object [])) [.flowMapping, .flowMappingEnd]
  | object {ms : List (Text × Json)} {ts : List Token} (h : Writes (.members ms) ts) :
      Writes (.data (.object ms)) (.flowMapping :: (ts ++ [.flowMappingEnd]))
  | member {j : Json} {ts : List Token} (name : List Point) (h : Writes (.data j) ts) :
      Writes (.member (.ofList name, j)) (.key :: .scalar name false :: .value :: ts)
  | lastMember {m : Text × Json} {ts : List Token} (h : Writes (.member m) ts) :
      Writes (.members [m]) ts
  | moreMembers {m : Text × Json} {ms : List (Text × Json)} {ts ts' : List Token}
      (h : Writes (.member m) ts) (h' : Writes (.members ms) ts') :
      Writes (.members (m :: ms)) (ts ++ .comma :: ts')

/-- Where a form can stand: items between brackets, and members where a key may begin. -/
def Form.Fits : Form → Nat → Bool → Prop
  | .data _, _, _ => True
  | .items _, level, _ => level ≠ 0
  | .member _, level, keyAllowed | .members _, level, keyAllowed => level ≠ 0 ∧ keyAllowed = true

/-- What the lexer makes of a text in front of any other, wherever it fits. -/
def Lexes (fits : Nat → Bool → Prop) (cs : List Char) (ts : List Token) : Prop :=
  ∀ (lx : Lexer) (level : Nat) (found : List Token) (rest : List Char),
    lx.Before level found (cs ++ rest) → fits level lx.keyAllowed →
      Closes (level ≠ 0) (unblanked rest) →
      lx.Reaches fun lx' => lx'.Before level (ts.reverse ++ found) rest

theorem closes_mark {c : Char} (h : isFlowMark c = true) {level : Nat} (hlevel : level ≠ 0)
    (rest : List Char) : Closes (level ≠ 0) (unblanked (c :: rest)) := by
  have hall : ∀ d, isFlowMark d = false → c ≠ d := by
    rintro d hd rfl
    rw [h] at hd
    cases hd
  have hsolid : IsSolid c := by
    refine ⟨hall ' ' rfl, ?_, hall '#' rfl⟩
    simp [isBreak, hall '\n' rfl, hall '\u2028' rfl, hall '\u2029' rfl]
  rw [unblanked_solid (x := c :: rest) hsolid]
  exact .inr ⟨by simpa using hlevel, h⟩

section Lexes

variable {fits fits' : Nat → Bool → Prop} {cs cs' : List Char} {ts ts' : List Token}

theorem lexes_blank {b : List Char} (hb : Blank b) : Lexes fits b [] :=
  fun _ _ _ _ hbefore _ _ => .done ((Before.skip hb).1 hbefore)

theorem Lexes.padded (h : Lexes fits cs ts) {b b' : List Char} (hb : Blank b) (hb' : Blank b') :
    Lexes fits (b ++ (cs ++ b')) ts := by
  intro lx level found rest hbefore hfits hclose
  rw [List.append_assoc, Before.skip hb, List.append_assoc] at hbefore
  rw [← unblanked_append hb'] at hclose
  exact (h lx level found _ hbefore hfits hclose).mono fun _ h => (Before.skip hb').1 h

/-- A text between brackets. -/
theorem Lexes.enclosed {opening closing : Char} {first last : Token} (h : Lexes fits cs ts)
    (hfits : ∀ level, fits (level + 1) true) (hmark : isFlowMark closing = true)
    (hopen : ∀ (lx : Lexer) (level : Nat) (found : List Token) (rest : List Char),
      lx.Before level found (opening :: rest) → lx.Reaches fun lx' =>
        lx'.Before (level + 1) (first :: found) rest ∧ lx'.keyAllowed = true)
    (hlast : ∀ (lx : Lexer) (level : Nat) (found : List Token) (rest : List Char),
      lx.Before (level + 1) found (closing :: rest) → lx.Reaches fun lx' =>
        lx'.Before level (last :: found) rest) :
    Lexes (fun _ _ => True) (opening :: (cs ++ [closing])) (first :: (ts ++ [last])) := by
  intro lx level found rest hbefore _ _
  rw [List.cons_append, List.append_assoc, List.singleton_append] at hbefore
  refine (hopen lx level found _ hbefore).next fun lx₁ ⟨hbefore₁, hallowed⟩ => ?_
  have hclose : Closes (level + 1 ≠ 0) (unblanked (closing :: rest)) :=
    closes_mark hmark (Nat.succ_ne_zero level) rest
  have hinside := h lx₁ (level + 1) _ _ hbefore₁ (hallowed ▸ hfits level) hclose
  refine hinside.next fun lx₂ hbefore₂ => (hlast lx₂ level _ rest hbefore₂).mono fun lx₃ h => ?_
  simpa using h

/-- Two texts with a comma between them. -/
theorem Lexes.joined (h : Lexes fits cs ts) (h' : Lexes fits' cs' ts')
    (hfits : ∀ level keyAllowed, fits' level keyAllowed → level ≠ 0 ∧ fits level keyAllowed ∧
      fits' level true) : Lexes fits' (cs ++ ',' :: cs') (ts ++ .comma :: ts') := by
  intro lx level found rest hbefore hfit hclose
  obtain ⟨hlevel, hfit₁, hfit₂⟩ := hfits level _ hfit
  rw [List.append_assoc, List.cons_append] at hbefore
  refine (h lx level found _ hbefore hfit₁ (closes_mark rfl hlevel _)).next fun lx₁ hbefore₁ => ?_
  refine (reaches_comma hbefore₁).next fun lx₂ ⟨hbefore₂, hallowed⟩ => ?_
  refine (h' lx₂ level _ rest hbefore₂ (hallowed ▸ hfit₂) hclose).mono fun lx₃ h => ?_
  simpa using h

/-- A name with its value. -/
theorem Lexes.member {raw s : List Char} {name : List Point} (h : Lexes fits cs ts)
    (hname : Quotes raw name)
    (hs : ∀ d ∈ s, d = ' ') (hlength : raw.length + 2 + s.length ≤ 1024)
    (hfits : ∀ level keyAllowed, fits level keyAllowed) :
    Lexes (fun level keyAllowed => level ≠ 0 ∧ keyAllowed = true)
      ('"' :: (raw ++ '"' :: (s ++ ':' :: cs))) (.key :: .scalar name false :: .value :: ts) := by
  intro lx level found rest hbefore hfit hclose
  have hform : '"' :: (raw ++ '"' :: (s ++ ':' :: cs)) ++ rest
      = '"' :: (raw ++ '"' :: (s ++ ':' :: (cs ++ rest))) := by simp
  rw [hform] at hbefore
  have hreaches := reaches_name hname hs hlength hfit.1 hfit.2 hbefore
  refine hreaches.next fun lx₁ hbefore₁ => ?_
  refine (h lx₁ level _ rest hbefore₁ (hfits _ _) hclose).mono fun lx₂ h => ?_
  simpa using h

end Lexes

/-- **A text that stands for data is read as tokens that write them.** -/
theorem Spells.lexes {form : Form} {cs : List Char} (h : Spells flow form cs) :
    ∃ ts, Writes form ts ∧ Lexes form.Fits cs ts := by
  induction h with
  | word h =>
    obtain ⟨hw, h⟩ := h
    exact ⟨_, .word h, fun lx level found rest hbefore _ hclose => reaches_word hw hbefore hclose⟩
  | quoted h =>
    refine ⟨_, .quoted _, fun lx level found rest hbefore _ _ => ?_⟩
    rw [List.cons_append, List.append_assoc, List.singleton_append] at hbefore
    exact reaches_quoted h hbefore
  | padded hb hb' h ih =>
    obtain ⟨ts, hts, hlexes⟩ := ih
    exact ⟨ts, hts, hlexes.padded hb hb'⟩
  | noItems hb =>
    have hblank : Lexes (fun _ _ => True) _ [] := lexes_blank hb
    exact ⟨_, .noItems, hblank.enclosed (fun _ => trivial) rfl
      (fun _ _ _ _ => reaches_openArray) (fun _ _ _ _ => reaches_closeArray)⟩
  | array h ih =>
    obtain ⟨ts, hts, hlexes⟩ := ih
    exact ⟨_, .array hts, hlexes.enclosed (fun level => Nat.succ_ne_zero level) rfl
      (fun _ _ _ _ => reaches_openArray) (fun _ _ _ _ => reaches_closeArray)⟩
  | lastItem h ih =>
    obtain ⟨ts, hts, hlexes⟩ := ih
    exact ⟨ts, .lastItem hts, fun lx level found rest hbefore _ =>
      hlexes lx level found rest hbefore trivial⟩
  | item h h' ih ih' =>
    obtain ⟨ts, hts, hlexes⟩ := ih
    obtain ⟨ts', hts', hlexes'⟩ := ih'
    exact ⟨_, .item hts hts', hlexes.joined hlexes' fun level _ hfit => ⟨hfit, trivial, hfit⟩⟩
  | noMembers hb =>
    have hblank : Lexes (fun _ _ => True) _ [] := lexes_blank hb
    exact ⟨_, .noMembers, hblank.enclosed (fun _ => trivial) rfl
      (fun _ _ _ _ => reaches_openObject) (fun _ _ _ _ => reaches_closeObject)⟩
  | object h ih =>
    obtain ⟨ts, hts, hlexes⟩ := ih
    exact ⟨_, .object hts, hlexes.enclosed (fun level => ⟨Nat.succ_ne_zero level, rfl⟩) rfl
      (fun _ _ _ _ => reaches_openObject) (fun _ _ _ _ => reaches_closeObject)⟩
  | member hname _ hgap h ih =>
    obtain ⟨ts, hts, hlexes⟩ := ih
    exact ⟨_, .member _ hts, hlexes.member hname hgap.1 hgap.2 fun _ _ => trivial⟩
  | lastMember h ih =>
    obtain ⟨ts, hts, hlexes⟩ := ih
    exact ⟨ts, .lastMember hts, hlexes⟩
  | moreMembers h h' ih ih' =>
    obtain ⟨ts, hts, hlexes⟩ := ih
    obtain ⟨ts', hts', hlexes'⟩ := ih'
    exact ⟨_, .moreMembers hts hts',
      hlexes.joined hlexes' fun level _ hfit => ⟨hfit.1, hfit, hfit.1, rfl⟩⟩

/-- Such a text begins with a blank, a word, a quote or a bracket. -/
theorem Spells.first {form : Form} {cs : List Char} (h : Spells flow form cs) :
    cs ≠ [] ∧ firstOf cs ≠ byteOrderMark := by
  have joined : ∀ {cs : List Char}, cs ≠ [] ∧ firstOf cs ≠ byteOrderMark → ∀ more,
      cs ++ more ≠ [] ∧ firstOf (cs ++ more) ≠ byteOrderMark := fun h more =>
    ⟨List.append_ne_nil_of_left_ne_nil h.1 more, firstOf_append h.1 more ▸ h.2⟩
  have marked : ∀ {c : Char}, c ≠ byteOrderMark → ∀ more,
      c :: more ≠ [] ∧ firstOf (c :: more) ≠ byteOrderMark := fun h more =>
    ⟨List.cons_ne_nil _ more, h⟩
  induction h with
  | word h => exact ⟨h.1.ne_nil, h.1.first_ne (by decide) (by decide)⟩
  | quoted _ => exact marked (by decide) _
  | @padded _ b _ _ hb _ _ ih =>
    cases b with
    | nil => exact joined ih _
    | cons d b =>
      rcases hb d (List.mem_cons_self ..) with rfl | rfl
      · exact marked (by decide) _
      · exact marked (by decide) _
  | noItems _ => exact marked (by decide) _
  | array _ _ => exact marked (by decide) _
  | lastItem _ ih => exact ih
  | item _ _ ih _ => exact joined ih _
  | noMembers _ => exact marked (by decide) _
  | object _ _ => exact marked (by decide) _
  | member _ _ _ _ _ => exact marked (by decide) _
  | lastMember _ ih => exact ih
  | moreMembers _ _ ih _ => exact joined ih _

/-- **The tokens of a text that stands for data.** -/
theorem Spells.scan {j : Json} {cs : List Char} (h : Spells flow (.data j) (unifyBreaks cs))
    (hallowed : cs.all isAllowed = true) : ∃ ts, Writes (.data j) ts ∧ Token.scan cs = ts := by
  obtain ⟨ts, hts, hlexes⟩ := h.lexes
  refine ⟨ts, hts, ?_⟩
  have hstart : Lexer.start (glyphs cs)
      = { rest := glyphs cs, tokens := [], count := 0, flow := 0, blocks := [], keyAllowed := true,
          keys := [] } := by
    have hfront : front (glyphs cs) ≠ byteOrderMark := by
      rw [glyphs, front_place]
      exact h.first.2
    rw [Lexer.start, if_neg hfront]
  have hbefore : (Lexer.start (glyphs cs)).Before 0 [] (unifyBreaks cs ++ []) := by
    rw [hstart, List.append_nil]
    exact ⟨⟨rfl, rfl, rfl, rfl, by simp⟩, stands_place _ _ _ _⟩
  have hreaches := hlexes _ 0 [] [] hbefore trivial (.inl rfl)
  have hfuel : (Lexer.start (glyphs cs)).rest.length < (glyphs cs).length + 1 := by
    rw [hstart]
    exact Nat.lt_succ_self _
  obtain ⟨lx, fuel, hbefore', hfuel', hrun⟩ := hreaches _ hfuel
  obtain ⟨lx', hrun', htokens⟩ := hbefore'.run hfuel'
  rw [Token.scan, if_pos hallowed]
  dsimp only
  rw [hrun, hrun']
  simp [htokens]

end LintBundle.Yaml
