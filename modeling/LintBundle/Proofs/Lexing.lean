import LintBundle.Yaml.Token.Lexer

/-!
# Proofs/Lexing — what the tokens of a text can be

A text that cannot be read any further ends in a token with the cause, which is one of three
(`TextFault.IsLexical`), and the text of a plain scalar ends in no blank and in no line break
(`Token.IsNeat`).  Both are facts about single tokens, so each step of the lexer is asked for no
more than that the tokens it adds are such ones (`Found`).
-/

namespace LintBundle

/-- The faults of a text that cannot be read as tokens. -/
def TextFault.IsLexical (cause : TextFault) : Prop :=
  cause = .malformed ∨ cause = .notANumber ∨ cause = .tooLarge

namespace Yaml

variable {α β : Type}

/-- A text that ends in no blank and no line break. -/
def EndsNeatly (cs : List Char) : Prop := ∀ c ∈ cs.getLast?, isGap c = false

/-- A token as a text can have it: a plain scalar is written in characters. -/
def Token.IsNeat : Token → Prop
  | .scalar text true => ∃ cs : List Char, text = cs.map .char ∧ EndsNeatly cs
  | .unreadable cause => cause.IsLexical
  | _ => True

/-- What is found has a property, or the fault is one of those. -/
def Found (p : α → Prop) : Except TextFault α → Prop
  | .ok a => p a
  | .error cause => cause.IsLexical

namespace Found

variable {p : α → Prop} {q : β → Prop}

theorem malformed : Found p (.error .malformed) := .inl rfl

theorem bind {x : Except TextFault α} {f : α → Except TextFault β} (hx : Found p x)
    (hf : ∀ a, p a → Found q (f a)) : Found q (x >>= f) := by
  cases x with
  | error cause => exact hx
  | ok a => exact hf a hx

theorem map {x : Except TextFault α} {f : α → β} (hx : Found p x) (hf : ∀ a, p a → q (f a)) :
    Found q (x.map f) := by
  cases x with
  | error cause => exact hx
  | ok a => exact hf a hx

theorem ite {c : Prop} [Decidable c] {x y : Except TextFault α} (hx : Found p x)
    (hy : Found p y) : Found p (if c then x else y) := by
  split
  · exact hx
  · exact hy

theorem mono {x : Except TextFault α} (hx : Found p x) {p' : α → Prop} (h : ∀ a, p a → p' a) :
    Found p' x := by
  cases x with
  | error cause => exact hx
  | ok a => exact h a hx

end Found

/-- A reader whose faults are those of texts. -/
abbrev Lexical (x : Except TextFault α) : Prop := Found (fun _ => True) x

/-! ## Plain scalars -/

theorem endsNeatly_nil : EndsNeatly [] := by simp [EndsNeatly]

theorem EndsNeatly.cons {c : Char} {cs : List Char} (hc : isGap c = false) (h : EndsNeatly cs) :
    EndsNeatly (c :: cs) := by
  cases cs with
  | nil => simpa [EndsNeatly] using hc
  | cons d r => simpa only [EndsNeatly, List.getLast?_cons_cons] using h

/-- What stands in front of a text does not matter, if the text has a character. -/
theorem EndsNeatly.append {cs : List Char} (h : EndsNeatly cs) (hne : cs ≠ [])
    (before : List Char) : EndsNeatly (before ++ cs) := by
  intro c hc
  rw [List.getLast?_append, Option.mem_def, List.getLast?_eq_some_getLast hne,
    Option.some_or, ← List.getLast?_eq_some_getLast hne] at hc
  exact h c hc

theorem endsNeatly_plainWord (inFlow : Bool) (gs : List Glyph) :
    EndsNeatly (plainWord inFlow gs).1 := by
  induction gs with
  | nil => exact endsNeatly_nil
  | cons g r ih =>
    rw [plainWord]
    split
    · exact endsNeatly_nil
    · rename_i hends
      have hg : isGap g.char = false := by
        simp only [endsPlain, Bool.or_eq_true, not_or, Bool.not_eq_true] at hends
        exact hends.1.1
      exact ih.cons hg

/-- **A plain scalar ends in its last word.** -/
theorem endsNeatly_plain (inFlow : Bool) (indent : Nat) (lead : List Char) (crosses : Bool)
    (fuel : Nat) (gs : List Glyph) :
    EndsNeatly (plain inFlow indent lead crosses fuel gs).text := by
  induction fuel generalizing lead crosses gs with
  | zero => exact endsNeatly_nil
  | succ fuel ih =>
    rw [plain]
    split
    · exact endsNeatly_nil
    have hword := endsNeatly_plainWord inFlow gs
    split
    · exact endsNeatly_nil
    rename_i word rest hne heq
    have hword : EndsNeatly word := by rwa [heq] at hword
    have hne : word ≠ [] := hne
    dsimp only
    split
    · exact hword.append hne lead
    · have hmore := ih (plainGap rest).text (plainGap rest).crosses (plainGap rest).rest
      revert hmore
      generalize plain inFlow indent (plainGap rest).text (plainGap rest).crosses fuel
        (plainGap rest).rest = more
      intro hmore
      by_cases hm : more.text = []
      · rw [hm, List.append_nil]
        exact hword.append hne lead
      · exact hmore.append hm _

/-! ## Readers -/

theorem lexical_takeName (gs : List Glyph) : Lexical (takeName gs) := by
  unfold takeName
  split
  · exact .malformed
  · trivial

theorem lexical_escapedBytes (gs : List Glyph) : Lexical (escapedBytes gs) := by
  fun_induction escapedBytes gs with
  | case1 => exact .malformed
  | case2 _ _ _ _ _ _ _ ih => exact ih.bind fun _ _ => trivial
  | case3 => trivial
  | case4 => exact .malformed
  | case5 => trivial

theorem lexical_decodeBytes (bytes : List UInt8) : Lexical (decodeBytes bytes) := by
  unfold decodeBytes
  split
  · trivial
  · exact .malformed

theorem lexical_uriParts (fuel : Nat) (gs : List Glyph) : Lexical (uriParts fuel gs) := by
  induction fuel generalizing gs with
  | zero => trivial
  | succ fuel ih =>
    rw [uriParts]
    refine .ite ?_ trivial
    exact (lexical_escapedBytes _).bind fun _ _ =>
      (lexical_decodeBytes _).bind fun _ _ => (ih _).bind fun _ _ => trivial

theorem lexical_takeUri (gs : List Glyph) : Lexical (takeUri gs) :=
  .ite (lexical_uriParts _ _) .malformed

theorem lexical_takeHandle (gs : List Glyph) : Lexical (takeHandle gs) :=
  .ite .malformed (.ite trivial (.ite trivial .malformed))

theorem lexical_takeNumber (gs : List Glyph) : Lexical (takeNumber gs) := by
  unfold takeNumber
  split
  · exact .malformed
  · exact .ite (.inr (.inl rfl)) trivial

theorem lexical_takeVersion (gs : List Glyph) : Lexical (takeVersion gs) := by
  refine (lexical_takeNumber _).bind fun _ _ => .ite ?_ ?_
  · exact .malformed
  · exact (lexical_takeNumber _).bind fun _ _ => .ite trivial .malformed

theorem lexical_takeTagDirective (gs : List Glyph) : Lexical (takeTagDirective gs) := by
  refine (lexical_takeHandle _).bind fun _ _ => .ite ?_ ?_
  · exact .malformed
  · exact (lexical_takeUri _).bind fun _ _ => .ite trivial .malformed

/-- A directive is a token of its own kind. -/
theorem found_takeDirective (gs : List Glyph) :
    Found (fun found => found.1.IsNeat) (takeDirective gs) := by
  have line : ∀ directive rest, Found (fun found => found.1.IsNeat)
      (if isLineEnd (front (skipComment (skipSpaces rest))) then
        .ok (Token.directive directive, (takeBreak (skipComment (skipSpaces rest))).2)
      else .error .malformed) := fun _ _ => .ite trivial .malformed
  refine (lexical_takeName _).bind fun _ _ => .ite .malformed (.ite ?_ (.ite ?_ ?_))
  · exact (lexical_takeVersion _).bind fun _ _ => line _ _
  · exact (lexical_takeTagDirective _).bind fun _ _ => line _ _
  · exact line _ _

theorem found_takeTag (gs : List Glyph) : Found (fun found => found.1.IsNeat) (takeTag gs) := by
  unfold takeTag
  extract_lets ending named
  have ends : ∀ handle suffix rest,
      Found (fun found => found.1.IsNeat) (ending (Token.tag handle suffix, rest)) :=
    fun _ _ _ => .ite trivial .malformed
  have goes : ∀ found, Found (fun found => found.1.IsNeat) (named found) :=
    fun _ => (lexical_takeUri _).bind fun _ _ => ends _ _ _
  split
  · refine (lexical_takeUri _).bind fun found _ => ?_
    dsimp only
    split
    · exact ends _ _ _
    · exact .malformed
  split
  · exact ends _ _ _
  split
  · exact (lexical_takeHandle _).bind fun found _ => goes found
  · exact goes (['!'], gs.drop 1)

theorem found_takeMarked {mark : List Char → Token} (h : ∀ name, (mark name).IsNeat)
    (gs : List Glyph) : Found (fun found => found.1.IsNeat) (takeMarked mark gs) :=
  have hanchor : Lexical (takeAnchor gs) :=
    (lexical_takeName _).bind fun _ _ => .ite trivial .malformed
  hanchor.bind fun _ _ => h _

theorem lexical_quotedBreaks (fuel : Nat) (gs : List Glyph) : Lexical (quotedBreaks fuel gs) := by
  induction fuel generalizing gs with
  | zero => exact .malformed
  | succ fuel ih =>
    rw [quotedBreaks]
    refine .ite .malformed ?_
    split
    · trivial
    · exact (ih _).bind fun _ _ => trivial

theorem lexical_quotedGap (fuel : Nat) (gs : List Glyph) : Lexical (quotedGap fuel gs) := by
  unfold quotedGap
  dsimp only
  split
  · exact .ite .malformed trivial
  · exact (lexical_quotedBreaks _ _).bind fun _ _ => trivial

theorem lexical_pointOfCode (code : Nat) : Lexical (pointOfCode code) :=
  .ite (.inr (.inr rfl)) (.ite (.inr (.inl rfl)) trivial)

theorem lexical_takeCode (width : Nat) (gs : List Glyph) : Lexical (takeCode width gs) := by
  unfold takeCode
  split
  · exact (lexical_pointOfCode _).map fun _ _ => trivial
  · exact .malformed

theorem lexical_quoted (double : Bool) (fuel : Nat) (gs : List Glyph) :
    Lexical (quoted double fuel gs) := by
  induction fuel generalizing gs with
  | zero => exact .malformed
  | succ fuel ih =>
    cases gs with
    | nil => exact .malformed
    | cons g r =>
      rw [quoted]
      refine .ite ?_ (.ite (.ite trivial (.ite ?_ ?_)) (.ite (.ite ?_ trivial) ?_))
      · exact (lexical_quotedGap _ _).bind fun _ _ => (ih _).bind fun _ _ => trivial
      · split
        · exact (ih _).bind fun _ _ => trivial
        · exact (lexical_takeCode _ _).bind fun _ _ => (ih _).bind fun _ _ => trivial
        · refine .ite ?_ .malformed
          exact (lexical_quotedBreaks _ _).bind fun _ _ => (ih _).bind fun _ _ => trivial
      · exact (ih _).bind fun _ _ => trivial
      · exact (ih _).bind fun _ _ => trivial
      · exact (ih _).bind fun _ _ => trivial

theorem lexical_headerEnd (gs : List Glyph) : Lexical (headerEnd gs) := .ite trivial .malformed

theorem lexical_blockHeader (gs : List Glyph) : Lexical (blockHeader gs) := by
  unfold blockHeader
  dsimp only
  exact .ite .malformed ((lexical_headerEnd _).bind fun _ _ => trivial)

theorem lexical_block (folds : Bool) (least fuel : Nat) (gs : List Glyph) :
    Lexical (block folds least fuel gs) :=
  (lexical_blockHeader _).bind fun _ _ => .ite trivial trivial

/-! ## The lexer -/

namespace Lexer

/-- A lexer that has found tokens as a text can have them. -/
def Neat (lx : Lexer) : Prop := ∀ t ∈ lx.tokens, t.IsNeat

variable {lx : Lexer}

theorem Neat.push (h : lx.Neat) {t : Token} (ht : t.IsNeat) : (lx.push t).Neat :=
  List.forall_mem_cons.2 ⟨ht, h⟩

theorem Neat.emit (h : lx.Neat) {t : Token} (ht : t.IsNeat) (rest : List Glyph) :
    (lx.emit t rest).Neat := h.push ht

theorem Neat.insertAt (h : lx.Neat) {t : Token} (ht : t.IsNeat) (number : Nat) :
    (lx.insertAt number t).Neat := by
  intro u hu
  rcases List.mem_append.1 hu with hu | hu
  · exact h u (List.mem_of_mem_take hu)
  · rcases List.mem_cons.1 hu with rfl | hu
    · exact ht
    · exact h u (List.mem_of_mem_drop hu)

theorem Neat.openBlock (h : lx.Neat) {t : Token} (ht : t.IsNeat) (column : Nat) :
    (lx.openBlock column t).Neat := by
  unfold Lexer.openBlock
  split
  · exact h.push ht
  · exact h

theorem Neat.closeBlocks (h : lx.Neat) (number : Nat) (blocks : List Nat) :
    (lx.closeBlocks number blocks).Neat := by
  intro t ht
  rcases List.mem_append.1 ht with ht | ht
  · rw [(List.mem_replicate.1 ht).2]
    trivial
  · exact h t ht

theorem Neat.closeTo (h : lx.Neat) (column : Nat) : (lx.closeTo column).Neat := by
  unfold Lexer.closeTo
  split
  · exact h.closeBlocks _ _
  · exact h

theorem Neat.closeAll (h : lx.Neat) : lx.closeAll.Neat := by
  unfold Lexer.closeAll
  split
  · exact h.closeBlocks _ _
  · exact h

theorem Neat.dropKey (h : lx.Neat) : Found Neat lx.dropKey := .ite .malformed h

theorem Neat.saveKey (h : lx.Neat) : Found Neat lx.saveKey := by
  refine .ite (h.dropKey.bind fun lx h => ?_) h
  split
  · exact h
  · exact h

theorem Neat.dropStale (h : lx.Neat) : Found Neat lx.dropStale := .ite .malformed h

theorem Neat.advance (h : lx.Neat) (fuel : Nat) : Found Neat (lx.advance fuel) := by
  refine Found.bind (Neat.dropStale ?_) fun lx h => h.closeTo lx.column
  exact h

theorem Neat.boundary (h : lx.Neat) {t : Token} (ht : t.IsNeat) (rest : List Glyph) :
    Found Neat (lx.boundary t rest) :=
  h.closeAll.dropKey.bind fun _ h => Neat.emit (by exact h) ht rest

theorem Neat.openFlow (h : lx.Neat) {t : Token} (ht : t.IsNeat) : Found Neat (lx.openFlow t) :=
  h.saveKey.bind fun _ h => Neat.emit (by exact h) ht _

theorem Neat.closeFlow (h : lx.Neat) {t : Token} (ht : t.IsNeat) : Found Neat (lx.closeFlow t) := by
  refine h.dropKey.bind fun lx h => ?_
  split
  · exact .malformed
  · exact Neat.emit (by exact h) ht _

theorem Neat.comma (h : lx.Neat) : Found Neat lx.comma :=
  h.dropKey.bind fun _ h => Neat.emit (t := .comma) (by exact h) trivial _

theorem Neat.entry (h : lx.Neat) : Found Neat lx.entry := by
  unfold Lexer.entry
  extract_lets joint
  have joined : ∀ lx : Lexer, lx.Neat → Found Neat (joint lx) := fun _ h =>
    h.dropKey.bind fun _ h => Neat.emit (t := .entry) (by exact h) trivial _
  refine .ite (.ite ?_ .malformed) (joined _ h)
  exact joined _ (h.openBlock (t := .blockSequence) trivial _)

theorem Neat.key (h : lx.Neat) : Found Neat lx.key := by
  unfold Lexer.key
  extract_lets joint
  have joined : ∀ lx : Lexer, lx.Neat → Found Neat (joint lx) := fun _ h =>
    h.dropKey.bind fun _ h => Neat.emit (t := .key) (by exact h) trivial _
  refine .ite (.ite ?_ .malformed) (joined _ h)
  exact joined _ (h.openBlock (t := .blockMapping) trivial _)

theorem Neat.value (h : lx.Neat) : Found Neat lx.value := by
  unfold Lexer.value
  split
  · rename_i key _
    dsimp only
    split
    · exact Neat.push (t := .value) (Neat.insertAt (t := .blockMapping)
        (Neat.insertAt (t := .key) h trivial key.token) trivial key.token) trivial
    · exact Neat.push (t := .value) (Neat.insertAt (t := .key) h trivial key.token) trivial
  · extract_lets joint
    have joined : ∀ lx : Lexer, lx.Neat → Found Neat (joint lx) := fun lx h =>
      Found.bind (Neat.dropKey (show Neat { lx with keyAllowed := lx.flow = 0 } from h)) fun _ h =>
        Neat.push (t := .value) h trivial
    refine .ite (.ite ?_ .malformed) (joined _ h)
    exact joined _ (h.openBlock (t := .blockMapping) trivial _)

theorem Neat.piece (h : lx.Neat) {read : List Glyph → Except TextFault (Token × List Glyph)}
    (hread : ∀ gs, Found (fun found => found.1.IsNeat) (read gs)) : Found Neat (lx.piece read) :=
  h.saveKey.bind fun _ h => (hread _).bind fun _ ht => Neat.emit (by exact h) ht _

theorem Neat.blockScalar (h : lx.Neat) (fuel : Nat) (folds : Bool) :
    Found Neat (lx.blockScalar fuel folds) :=
  Found.bind (Neat.dropKey (show Neat { lx with keyAllowed := true } from h)) fun _ h =>
    (lexical_block _ _ _ _).bind fun found _ =>
      Neat.emit (t := .scalar (found.1.map .char) false) h trivial _

theorem Neat.quotedScalar (h : lx.Neat) (fuel : Nat) (double : Bool) :
    Found Neat (lx.quotedScalar fuel double) :=
  h.piece fun _ => (lexical_quoted _ _ _).bind fun _ _ => trivial

theorem Neat.plainScalar (h : lx.Neat) (fuel : Nat) : Found Neat (lx.plainScalar fuel) :=
  h.saveKey.bind fun _ h =>
    Neat.push (t := .scalar _ true) h ⟨_, rfl, endsNeatly_plain _ _ _ _ _ _⟩

/-- **Every token that is read is one as a text can have it.** -/
theorem Neat.next (h : lx.Neat) (fuel : Nat) : Found Neat (lx.next fuel) := by
  unfold Lexer.next
  extract_lets gs c inFlow
  refine .ite ?_ <| .ite (h.boundary (t := .documentStart) trivial _) <|
    .ite (h.boundary (t := .documentEnd) trivial _) <|
    .ite (h.openFlow (t := .flowSequence) trivial) <|
      .ite (h.openFlow (t := .flowMapping) trivial) <|
    .ite (h.closeFlow (t := .flowSequenceEnd) trivial) <|
    .ite (h.closeFlow (t := .flowMappingEnd) trivial) <| .ite h.comma <| .ite h.entry <|
    .ite h.key <| .ite h.value <| .ite (h.piece (found_takeMarked fun _ => trivial)) <|
    .ite (h.piece (found_takeMarked fun _ => trivial)) <| .ite (h.piece found_takeTag) <|
    .ite (h.blockScalar fuel false) <| .ite (h.blockScalar fuel true) <|
    .ite (h.quotedScalar fuel false) <| .ite (h.quotedScalar fuel true) <|
    .ite (h.plainScalar fuel) .malformed
  exact h.closeAll.dropKey.bind fun _ h => (found_takeDirective _).bind fun _ ht =>
    Neat.emit (by exact h) ht _

/-- **What a run finds**: tokens as a text can have them, and one of those faults if any. -/
theorem Neat.run (h : lx.Neat) (fuel : Nat) :
    (lx.run fuel).1.Neat ∧ ∀ cause ∈ (lx.run fuel).2, cause.IsLexical := by
  induction fuel generalizing lx with
  | zero => exact ⟨h, by simp [Lexer.run, TextFault.IsLexical]⟩
  | succ fuel ih =>
    have hstep : Found (fun found : Lexer × Bool => found.1.Neat) (do
        let lx ← lx.advance fuel
        if front lx.rest = endMark then return (← lx.finish, true)
        else return (← (← lx.next fuel).dropStale, false)) := by
      refine (h.advance fuel).bind fun lx h => .ite ?_ ?_
      · exact h.closeAll.dropKey.bind fun _ h => h
      · exact (h.next fuel).bind fun _ h => h.dropStale.bind fun _ h => h
    rw [Lexer.run]
    split
    · rename_i found hfound
      rw [hfound] at hstep
      exact ⟨hstep, by simp⟩
    · rename_i found hfound
      rw [hfound] at hstep
      exact ih hstep
    · rename_i cause hfound
      rw [hfound] at hstep
      refine ⟨h, ?_⟩
      rintro _ ⟨⟩
      exact hstep

end Lexer

/-- **The tokens of a text are as a text can have them.** -/
theorem isNeat_of_mem_scan {cs : List Char} {t : Token} (h : t ∈ Token.scan cs) : t.IsNeat := by
  rw [Token.scan] at h
  split at h
  · have hstart : (Lexer.start (glyphs cs)).Neat := by simp [Lexer.Neat, Lexer.start]
    obtain ⟨htokens, hcause⟩ := hstart.run ((glyphs cs).length + 1)
    dsimp only at h
    split at h
    · rename_i lx heq
      rw [heq] at htokens
      exact htokens t (List.mem_reverse.1 h)
    · rename_i lx cause heq
      rw [heq] at htokens hcause
      rcases List.mem_append.1 h with h | h
      · exact htokens t (List.mem_reverse.1 (List.mem_of_mem_take h))
      · rw [List.mem_singleton.1 h]
        exact hcause cause rfl
  · rw [List.mem_singleton.1 h]
    exact .inl rfl

end Yaml

end LintBundle
