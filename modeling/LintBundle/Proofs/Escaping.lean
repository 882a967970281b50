import LintBundle.Console.Markup
import LintBundle.Proofs.Chaining
import LintBundle.Proofs.Reporting
import LintBundle.Proofs.Spelling

/-!
# Proofs/Escaping — what the console makes of a text

    text ──escape──▸ console text ──▸ text with its tags
    text ──────────▸ console text ──▸ text without its tags, or a fault

A text that is escaped has no tag left, so it can be put behind a heading in colour and always shows
(`exists_text_escape`).  A text that is not escaped shows as it is if nothing in it is markup
(`Inert`), also between the tags of a colour; anything else may lose a part, though not its first
character if that is an ordinary one.  The faults of console text are none that are reported.
-/

namespace LintBundle

namespace Text

variable {α : Type} [DecidableEq α] {mark : α}

/-- **Pieces with marks in front of all but the first** are cut apart again. -/
theorem split_append_flatMap {first : List α} (h : mark ∉ first) {parts : List (List α)}
    (hparts : ∀ part ∈ parts, mark ∉ part) :
    split mark (first ++ parts.flatMap (mark :: ·)) = first :: parts := by
  induction parts generalizing first with
  | nil => simpa using split_of_notMem h
  | cons part parts ih =>
    obtain ⟨hpart, hparts⟩ := List.forall_mem_cons.1 hparts
    rw [List.flatMap_cons, List.cons_append, split_append_cons h, ih hpart hparts]

/-- **A text is its pieces**, none of which holds a mark, with the marks between them. -/
theorem exists_pieces (mark : α) (cs : List α) :
    ∃ first parts, split mark cs = first :: parts ∧ cs = first ++ parts.flatMap (mark :: ·) ∧
      mark ∉ first ∧ ∀ part ∈ parts, mark ∉ part := by
  induction cs with
  | nil => exact ⟨[], [], rfl, rfl, List.not_mem_nil, by simp⟩
  | cons c cs ih =>
    obtain ⟨first, parts, hsplit, hcs, hfirst, hparts⟩ := ih
    rw [split, hsplit]
    split
    · rename_i hc
      exact ⟨[], first :: parts, rfl, by rw [hc, hcs]; rfl, List.not_mem_nil,
        List.forall_mem_cons.2 ⟨hfirst, hparts⟩⟩
    · rename_i hc
      exact ⟨c :: first, parts, rfl, by rw [hcs]; rfl, by simpa using ⟨Ne.symm hc, hfirst⟩, hparts⟩

end Text

namespace Markup

/-! ## Backslashes at the end -/

/-- What comes before a text that does not end in a backslash itself does not add to them. -/
theorem slashes_append {lead : List Point} (h : lead.getLast? ≠ some (.char '\\'))
    (cs : List Point) :
    slashes (lead ++ cs) = slashes cs := by
  have hlead : lead.reverse.takeWhile (· = .char '\\') = [] := by
    cases hr : lead.reverse with
    | nil => rfl
    | cons c r =>
      rw [← List.head?_reverse, hr] at h
      have hc : c ≠ .char '\\' := by simpa using h
      simp [hc]
  rw [slashes, slashes, List.reverse_append, List.takeWhile_append, hlead]
  split <;> simp_all

@[simp] theorem slashes_append_replicate (cs : List Point) (n : ℕ) :
    slashes (cs ++ List.replicate n (.char '\\')) = slashes cs + n := by
  rw [slashes, slashes, List.reverse_append, List.reverse_replicate,
    List.takeWhile_append_of_pos (by simp), List.length_append, List.length_replicate, Nat.add_comm]

theorem slashes_le (cs : List Point) : slashes cs ≤ cs.length := by
  have h := (List.takeWhile_sublist (l := cs.reverse) (· = .char '\\')).length_le
  rwa [List.length_reverse] at h

theorem slashes_eq_zero {cs : List Point} (h : cs.getLast? ≠ some (.char '\\')) :
    slashes cs = 0 := by
  simpa [slashes] using slashes_append h []

/-! ## Tags -/

/-- What comes before the first closing bracket is told apart from what comes after it. -/
theorem tag?_append_cons {content : List Point} (h : .char ']' ∉ content) (after : List Point) :
    tag? (content ++ .char ']' :: after) =
      if (content ++ .char ']' :: after).head?.any startsTag then some (content, after)
      else none := by
  have hin : ∀ c ∈ content, decide (c ≠ .char ']') = true := by
    intro c hc
    simpa using fun h' : c = .char ']' => h (h' ▸ hc)
  rw [tag?, List.takeWhile_append_of_pos hin, List.dropWhile_append_of_pos hin]
  simp

/-- **A tag** is what comes before the first closing bracket, and begins like one. -/
theorem tag?_eq_some_iff {part content after : List Point} :
    tag? part = some (content, after) ↔
      part.head?.any startsTag = true ∧ part = content ++ .char ']' :: after ∧
        .char ']' ∉ content := by
  constructor
  · intro h
    have hmem : .char ']' ∈ part := by
      by_contra hnot
      simp [tag?, hnot] at h
    obtain ⟨content', after', rfl, hcontent⟩ := List.eq_append_cons_of_mem hmem
    rw [tag?_append_cons hcontent] at h
    split at h
    · rename_i hstart
      obtain ⟨rfl, rfl⟩ := Prod.mk.inj (Option.some.inj h)
      exact ⟨hstart, rfl, hcontent⟩
    · cases h
  · rintro ⟨hstart, rfl, hcontent⟩
    rw [tag?_append_cons hcontent, if_pos hstart]

theorem tag?_append {part content after : List Point} (h : tag? part = some (content, after))
    (more : List Point) : tag? (part ++ more) = some (content, after ++ more) := by
  obtain ⟨hstart, rfl, hcontent⟩ := tag?_eq_some_iff.1 h
  refine tag?_eq_some_iff.2 ⟨?_, by simp, hcontent⟩
  rwa [List.head?_append_of_ne_nil _ (by simp)]

/-- Backslashes behind it make no tag of a part. -/
theorem tag?_append_replicate {part : List Point} (h : tag? part = none) (n : ℕ) :
    tag? (part ++ List.replicate n (.char '\\')) = none := by
  cases hmore : tag? (part ++ List.replicate n (.char '\\')) with
  | none => rfl
  | some found =>
    obtain ⟨hstart, heq, -⟩ := tag?_eq_some_iff.1 hmore
    have hmem : .char ']' ∈ part := by
      have : .char ']' ∈ part ++ List.replicate n (.char '\\') := by rw [heq]; simp
      simpa using this
    obtain ⟨content, after, rfl, hcontent⟩ := List.eq_append_cons_of_mem hmem
    rw [List.head?_append_of_ne_nil _ (by simp)] at hstart
    rw [tag?_append_cons hcontent, if_pos hstart] at h
    cases h

/-! ## Pieces -/

/-- A piece that is no tag. -/
def Piece.IsPlain : Piece → Prop
  | .plain _ => True
  | .tag _ => False

/-- Parts that are no tags go on with the plain text. -/
theorem pieces_append {parts : List (List Point)} (h : ∀ part ∈ parts, tag? part = none)
    (before : List Point) (rest : List (List Point)) :
    pieces before (parts ++ rest) = pieces (before ++ parts.flatMap (.char '[' :: ·)) rest := by
  induction parts generalizing before with
  | nil => simp
  | cons part parts ih =>
    obtain ⟨hpart, hparts⟩ := List.forall_mem_cons.1 h
    rw [List.cons_append, pieces, hpart]
    simp only [ih hparts, List.flatMap_cons, List.append_assoc, List.cons_append]

/-- Without backslashes in front of it, a tag is one. -/
theorem pieces_tag {before part content after : List Point} (h : tag? part = some (content, after))
    (hs : slashes before = 0) (rest : List (List Point)) :
    pieces before (part :: rest)
      = .plain before :: .plain [] :: .tag content :: pieces after rest := by
  rw [pieces, h]
  simp [hs]

/-- **What shows of plain text** shows whatever styles are open. -/
theorem exists_shown {l : List Piece} (h : ∀ p ∈ l, p.IsPlain) (opened : List Opened) :
    ∃ cs, shown opened l = .ok cs := by
  induction l with
  | nil => exact ⟨[], rfl⟩
  | cons p l ih =>
    obtain ⟨hp, hl⟩ := List.forall_mem_cons.1 h
    obtain ⟨cs, hcs⟩ := ih hl
    cases p with
    | plain content => exact ⟨plain content ++ cs, by rw [shown, hcs]; rfl⟩
    | tag content => cases hp

/-! ## Escaped text -/

/-- **An escaped text has no tags.**  It goes on from the plain text it begins with by backslashes
and parts, and whatever came before, as long as no backslash did, none of these is a tag. -/
theorem escaped_eq (k : ℕ) {parts : List (List Point)} (h : ∀ part ∈ parts, .char '[' ∉ part)
    (before : List Point) :
    ∃ n written, escaped before parts ++ List.replicate k (.char '\\')
        = before ++ List.replicate n (.char '\\') ++ written.flatMap (.char '[' :: ·) ∧
      (∀ part ∈ written, .char '[' ∉ part) ∧
      ∀ lead : List Point, lead.getLast? ≠ some (.char '\\') →
        ∀ p ∈ pieces (lead ++ before ++ List.replicate n (.char '\\')) written, p.IsPlain := by
  induction parts generalizing before with
  | nil =>
    refine ⟨k, [], by simp [escaped], by simp, fun lead _ p hp => ?_⟩
    obtain rfl := List.mem_singleton.1 hp
    trivial
  | cons part parts ih =>
    obtain ⟨hpart, hparts⟩ := List.forall_mem_cons.1 h
    have hslash : ∀ n, Point.char '[' ∉ List.replicate n (Point.char '\\') := by simp
    cases htag : tag? part with
    | none =>
      obtain ⟨n, written, heq, hwritten, hplain⟩ := ih hparts (before ++ .char '[' :: part)
      refine ⟨0, (part ++ List.replicate n (.char '\\')) :: written, ?_, ?_,
        fun lead hlead p hp => ?_⟩
      · rw [escaped, htag]
        simp [heq]
      · exact List.forall_mem_cons.2 ⟨by simp [hpart], hwritten⟩
      · rw [pieces, tag?_append_replicate htag] at hp
        exact hplain lead hlead p (by simpa using hp)
    | some found =>
      obtain ⟨content, after⟩ := found
      obtain ⟨-, rfl, -⟩ := tag?_eq_some_iff.1 htag
      obtain ⟨n, written, heq, hwritten, hplain⟩ := ih hparts after
      refine ⟨slashes before + 1,
        (content ++ .char ']' :: after ++ List.replicate n (.char '\\')) :: written,
        ?_, ?_, fun lead hlead p hp => ?_⟩
      · rw [escaped, htag]
        simp [heq]
      · exact List.forall_mem_cons.2 ⟨List.not_mem_append hpart (hslash n), hwritten⟩
      · -- one backslash more than twice as many as there were, so the tag is text
        have hcount :
            slashes (lead ++ before ++ List.replicate (slashes before + 1) (.char '\\')) % 2
              = 1 := by
          rw [slashes_append_replicate, slashes_append hlead]
          omega
        rw [pieces, tag?_append htag] at hp
        simp only [hcount, if_true, List.mem_cons] at hp
        rcases hp with rfl | rfl | rfl | hp
        · trivial
        · trivial
        · trivial
        · exact hplain [] (by simp) p (by simpa using hp)

/-- The same of the whole text. -/
theorem escape_eq (cs : List Point) : ∃ first written,
    escape cs = first ++ written.flatMap (.char '[' :: ·) ∧
    .char '[' ∉ first ∧ (∀ part ∈ written, .char '[' ∉ part) ∧
    ∀ lead : List Point, lead.getLast? ≠ some (.char '\\') →
      ∀ p ∈ pieces (lead ++ first) written, p.IsPlain := by
  obtain ⟨before, parts, hsplit, -, hbefore, hparts⟩ := Text.exists_pieces (.char '[') cs
  obtain ⟨k, hk⟩ : ∃ k, escape cs = escaped before parts ++ List.replicate k (.char '\\') := by
    rw [escape, hsplit]
    dsimp only
    split
    · exact ⟨1, rfl⟩
    · exact ⟨0, by simp⟩
  obtain ⟨n, written, heq, hwritten, hplain⟩ := escaped_eq k hparts before
  refine ⟨before ++ List.replicate n (.char '\\'), written, hk.trans heq, ?_, hwritten,
    fun lead hlead p hp => ?_⟩
  · simpa using hbefore
  · exact hplain lead hlead p (by simpa using hp)

/-- **An escaped text always shows**, also behind a text without brackets that does not end in a
backslash. -/
theorem exists_text_escape {lead : List Point} (h : .char '[' ∉ lead)
    (hlead : lead.getLast? ≠ some (.char '\\'))
    (cs : List Point) : ∃ cell, text (lead ++ escape cs) = .ok cell := by
  obtain ⟨first, written, hescape, hfirst, hwritten, hplain⟩ := escape_eq cs
  have hsplit : Text.split (.char '[') (lead ++ escape cs) = (lead ++ first) :: written := by
    rw [hescape, ← List.append_assoc]
    exact Text.split_append_flatMap (List.not_mem_append h hfirst) hwritten
  rw [text, ofText, hsplit]
  exact exists_shown (hplain lead hlead) []

/-! ## Text in colour -/

/-- The colours of headings and of severities. -/
def colors : List Text := ["red", "yellow", "blue", "dim", "white"]

/-- A text between the tags of a colour. -/
def colored (color : Text) (cs : List Point) : List Point :=
  .char '[' :: color.toList ++ .char ']' :: cs ++ .char '[' :: .char '/' :: color.toList ++
    [.char ']']

/-- A colour is opened and closed by its name. -/
theorem afterTag_color : ∀ color ∈ colors,
    afterTag [] color.toList = .ok [⟨color.toList, []⟩] ∧
      afterTag [⟨color.toList, []⟩] (.char '/' :: color.toList) = .ok [] := by
  simp only [colors, List.forall_mem_cons]
  exact ⟨⟨rfl, rfl⟩, ⟨rfl, rfl⟩, ⟨rfl, rfl⟩, ⟨rfl, rfl⟩, ⟨rfl, rfl⟩, List.forall_mem_nil _⟩

/-- The names of colours are tags, closed or not. -/
theorem tag?_color : ∀ color ∈ colors,
    tag? (color.toList ++ [.char ']']) = some (color.toList, []) ∧
      tag? (.char '/' :: color.toList ++ [.char ']']) = some (.char '/' :: color.toList, []) := by
  decide

theorem bracket_notMem_color : ∀ color ∈ colors, .char '[' ∉ color.toList := by decide

@[simp] theorem plain_nil : plain [] = [] := rfl

/-- **A text in colour shows without its colour**, if it has no tags itself and ends in no
backslash, and then what follows it. -/
theorem text_colored_append {color : Text} (hcolor : color ∈ colors) {cs : List Point}
    (htags : ∀ part ∈ (Text.split (.char '[') cs).tail, tag? part = none) (hs : slashes cs = 0)
    (rest : List Point) :
    text (colored color cs ++ rest) = (text rest).map (plain cs ++ ·) := by
  obtain ⟨first, parts, hsplit, hcs, hfirst, hparts⟩ := Text.exists_pieces (.char '[') cs
  obtain ⟨next, more, hsplit', hrest, hnext, hmore⟩ := Text.exists_pieces (.char '[') rest
  rw [hsplit, List.tail_cons] at htags
  obtain ⟨hopen, hclose⟩ := afterTag_color color hcolor
  obtain ⟨hopening, hclosing⟩ := tag?_color color hcolor
  have hopening := tag?_append hopening first
  have hclosing := tag?_append hclosing next
  have hpieces : ofText (colored color cs ++ rest)
      = pieces [] ((color.toList ++ [.char ']'] ++ first) ::
          (parts ++ (.char '/' :: color.toList ++ [.char ']'] ++ next) :: more)) := by
    have htext : colored color cs ++ rest = [] ++ ((color.toList ++ [.char ']'] ++ first) ::
        (parts ++ (.char '/' :: color.toList ++ [.char ']'] ++ next) :: more)).flatMap
          (.char '[' :: ·) := by
      rw [hcs, hrest, colored]
      simp
    rw [ofText, htext, Text.split_append_flatMap List.not_mem_nil]
    have hname := bracket_notMem_color color hcolor
    simp only [List.forall_mem_cons, List.forall_mem_append]
    exact ⟨by simpa using ⟨hname, hfirst⟩, hparts, by simpa using ⟨hname, hnext⟩, hmore⟩
  rw [text, hpieces, pieces_tag hopening rfl, pieces_append htags, List.nil_append, ← hcs,
    pieces_tag hclosing hs, text, ofText, hsplit']
  simp only [shown, hopen, hclose, plain_nil, bind, Except.bind, List.nil_append]
  cases shown [] (pieces next more) <;> rfl

/-! ## Text that is no markup -/

/-- **A text with no markup in it**: no tag, no backslash before a bracket, no name of a symbol
between colons, and no character that a console leaves out. -/
structure Inert (cs : List Point) : Prop where
  noTag : ∀ part ∈ (Text.split (.char '[') cs).tail, tag? part = none
  noSlash : withoutSlashes cs = cs
  noSymbol : ∀ name ∈ (Text.split (.char ':') cs).tail.dropLast,
    name.any Point.isSpace = true ∨ Emoji.symbol? (Text.shapes name) = none
  noHidden : ∀ c ∈ cs, isHidden c = false

/-- Colons around anything but the name of a symbol stay. -/
theorem afterColon_eq {parts : List (List Point)}
    (h : ∀ name ∈ parts.dropLast, name.any Point.isSpace = true ∨
      Emoji.symbol? (Text.shapes name) = none) :
    Emoji.afterColon parts = parts.flatMap (.char ':' :: ·) := by
  fun_induction Emoji.afterColon parts with
  | case1 => rfl
  | case2 last => simp
  | case3 content next rest hspace ih =>
    rw [List.dropLast_cons_of_ne_nil (by simp)] at h
    rw [ih (List.forall_mem_cons.1 h).2]
    rfl
  | case4 content next rest hspace ih =>
    rw [List.dropLast_cons_of_ne_nil (by simp)] at h
    obtain ⟨hcontent, hrest⟩ := List.forall_mem_cons.1 h
    have hsymbol : Emoji.symbol? (Text.shapes content) = none := hcontent.resolve_left hspace
    have hrest' : ∀ name ∈ rest.dropLast, name.any Point.isSpace = true ∨
        Emoji.symbol? (Text.shapes name) = none := by
      intro name hname
      cases rest with
      | nil => cases hname
      | cons r rest =>
        rw [List.dropLast_cons_of_ne_nil (by simp)] at hrest
        exact hrest name (List.mem_cons_of_mem _ hname)
    rw [ih hrest', hsymbol]
    simp

theorem Inert.plain_eq {cs : List Point} (h : Inert cs) : plain cs = cs := by
  have hexpand : Emoji.expand cs = cs := by
    obtain ⟨first, parts, hsplit, hcs, -⟩ := Text.exists_pieces (.char ':') cs
    have hsymbol := h.noSymbol
    rw [hsplit, List.tail_cons] at hsymbol
    rw [Emoji.expand, hsplit]
    exact (congrArg (first ++ ·) (afterColon_eq hsymbol)).trans hcs.symm
  rw [plain, h.noSlash, hexpand]
  exact List.filter_eq_self.2 fun c hc => by simp [h.noHidden c hc]

/-- **A text that is no markup shows as it is.** -/
theorem Inert.text_eq {cs : List Point} (h : Inert cs) : text cs = .ok cs := by
  obtain ⟨first, parts, hsplit, hcs, -⟩ := Text.exists_pieces (.char '[') cs
  have htags := h.noTag
  rw [hsplit, List.tail_cons] at htags
  have hpieces := pieces_append htags first []
  rw [List.append_nil, ← hcs, pieces] at hpieces
  rw [text, ofText, hsplit]
  dsimp only
  rw [hpieces]
  simp [shown, h.plain_eq, Except.map]

/-- It does so in colour, too. -/
theorem Inert.text_colored {cs : List Point} (h : Inert cs) {color : Text} (hcolor : color ∈ colors)
    (hs : slashes cs = 0) : text (colored color cs) = .ok cs := by
  have := text_colored_append hcolor h.noTag hs []
  rw [List.append_nil, h.plain_eq] at this
  rw [this, show text [] = .ok [] from rfl]
  simp [Except.map]

/-- A text without brackets, colons and control characters is no markup. -/
theorem inert_of_notMem {cs : List Point} (hbracket : .char '[' ∉ cs) (hcolon : .char ':' ∉ cs)
    (hhidden : ∀ c ∈ cs, isHidden c = false) : Inert cs where
  noTag := by simp [Text.split_of_notMem hbracket]
  noSlash := by
    clear hcolon hhidden
    fun_induction withoutSlashes cs with
    | case1 r ih => simp at hbracket
    | case2 c r _ ih => rw [ih (fun h => hbracket (List.mem_cons_of_mem _ h))]
    | case3 => rfl
  noSymbol := by simp [Text.split_of_notMem hcolon]
  noHidden := hhidden

/-! ## The first character -/

/-- A character that means nothing at the beginning of console text. -/
structure Ordinary (c : Point) : Prop where
  notSlash : c ≠ .char '\\'
  notBracket : c ≠ .char '['
  notColon : c ≠ .char ':'
  notHidden : isHidden c = false

namespace Ordinary

variable {c : Point} (h : Ordinary c)

include h

theorem plain_cons (cs : List Point) : ∃ rest, plain (c :: cs) = c :: rest := by
  have hslashes : withoutSlashes (c :: cs) = c :: withoutSlashes cs := by
    rw [withoutSlashes]
    rintro r rfl
    exact absurd rfl h.notSlash
  obtain ⟨first, parts, hsplit, -⟩ := Text.exists_pieces (.char ':') (withoutSlashes cs)
  have hexpand : Emoji.expand (c :: withoutSlashes cs)
      = c :: (first ++ Emoji.afterColon parts) := by
    rw [Emoji.expand, Text.split, if_neg h.notColon, hsplit]
    rfl
  rw [plain, hslashes, hexpand, List.filter_cons_of_pos (by simp [h.notHidden])]
  exact ⟨_, rfl⟩

/-- Console text that begins with it begins with plain text that does. -/
theorem pieces_cons (before : List Point) (parts : List (List Point)) :
    ∃ cs rest, pieces (c :: before) parts = .plain (c :: cs) :: rest := by
  induction parts generalizing before with
  | nil => exact ⟨before, [], rfl⟩
  | cons part parts ih =>
    cases htag : tag? part with
    | none =>
      rw [pieces, htag]
      exact ih (before ++ .char '[' :: part)
    | some found =>
      have hslashes : slashes (c :: before) = slashes before := by
        have hlast : [c].getLast? ≠ some (.char '\\') := by simpa using h.notSlash
        exact slashes_append hlast before
      have hle := slashes_le before
      have htake : (c :: before).take ((c :: before).length - slashes (c :: before))
          = c :: before.take (before.length - slashes before) := by
        rw [hslashes, List.length_cons, Nat.succ_sub hle, List.take_succ_cons]
      rw [pieces, htag]
      dsimp only
      rw [htake]
      exact ⟨_, _, rfl⟩

/-- **What begins with an ordinary character shows beginning with it.** -/
theorem head?_text {cs cell : List Point} (hcell : text (c :: cs) = .ok cell) :
    cell.head? = some c := by
  obtain ⟨first, parts, hsplit, -⟩ := Text.exists_pieces (.char '[') cs
  have hsplit' : Text.split (.char '[') (c :: cs) = (c :: first) :: parts := by
    rw [Text.split, if_neg h.notBracket, hsplit]
  obtain ⟨content, rest, hpieces⟩ := h.pieces_cons first parts
  obtain ⟨more, hplain⟩ := h.plain_cons content
  rw [text, ofText, hsplit'] at hcell
  dsimp only at hcell
  rw [hpieces, shown, hplain] at hcell
  obtain ⟨tail, -, rfl⟩ := map_eq_ok hcell
  rfl

end Ordinary

end Markup

/-! ## Faults of console text -/

/-- The faults that end a command without a report. -/
def Fault.escapes (fault : Fault) : Bool := !fault.isReported

variable {α β : Type}

theorem Ends.bind {allowed : Fault → Bool} {x : Except Fault α} {f : α → Except Fault β}
    (hx : Ends allowed x) (hf : ∀ a, Ends allowed (f a)) : Ends allowed (x >>= f) :=
  (ends_bind_iff hf).2 hx

theorem Ends.map {allowed : Fault → Bool} {x : Except Fault α} (hx : Ends allowed x) (g : α → β) :
    Ends allowed (x.map g) := by
  cases x with
  | error fault => exact hx
  | ok a => trivial

namespace Style

theorem ends_isMixed (parts : List Char) : Ends Fault.escapes (isMixed parts) := by
  rw [isMixed]
  split
  · trivial
  · split
    · split
      · trivial
      · rfl
    · trivial

theorem ends_isColor (word : List Char) : Ends Fault.escapes (isColor word) := by
  rw [isColor]
  split
  · trivial
  · exact ends_isMixed _
  · trivial
  · trivial

/-- A word that may be a colour. -/
theorem ends_ite_isColor {x : Except Fault (Option Style)} (h : Ends Fault.escapes x)
    (word : List Char) : Ends Fault.escapes (do if ← isColor word then x else return none) := by
  refine (ends_isColor word).bind fun isColor => ?_
  split
  · exact h
  · trivial

theorem ends_ofWords (s : Style) (words : List (List Point)) :
    Ends Fault.escapes (ofWords s words) := by
  fun_induction ofWords s words with
  | case5 _ _ _ _ _ _ ih => exact ends_ite_isColor ih _
  | case6 _ _ _ _ _ _ _ ih => exact ih
  | case8 _ _ _ _ _ ih => exact ih
  | case9 _ _ _ _ _ _ _ _ _ _ _ _ ih => exact ih
  | case10 _ _ _ _ _ _ _ _ _ _ _ ih => exact ends_ite_isColor ih _
  | _ => trivial

theorem ends_canonical (description : List Point) : Ends Fault.escapes (canonical description) := by
  rw [canonical]
  split
  · trivial
  · refine (ends_ofWords _ _).bind fun s => ?_
    split <;> trivial

end Style

namespace Markup

theorem ends_check (o : Opened) : Ends Fault.escapes o.check := by
  rw [Opened.check]
  split
  · rfl
  · trivial

theorem ends_afterTag (opened : List Opened) (content : List Point) :
    Ends Fault.escapes (afterTag opened content) := by
  rw [afterTag]
  split
  · dsimp only
    split
    · refine Ends.bind ?_ fun name => ?_
      · trivial
      · split
        · rfl
        · exact (ends_check _).bind fun _ => trivial
    · refine ((Style.ends_canonical _).map some).bind fun name => ?_
      split
      · rfl
      · exact (ends_check _).bind fun _ => trivial
  · exact (Style.ends_canonical _).bind fun _ => trivial

/-- **What console text can fail with is not reported.** -/
theorem ends_text (cs : List Point) : Ends Fault.escapes (text cs) := by
  have hshown : ∀ (l : List Piece) (opened : List Opened), Ends Fault.escapes (shown opened l) := by
    intro l
    induction l with
    | nil => exact fun _ => trivial
    | cons p l ih =>
      intro opened
      cases p with
      | plain cs => exact (ih opened).map _
      | tag content => exact (ends_afterTag opened content).bind fun opened' => ih opened'
  exact hshown _ _

end Markup

end LintBundle
