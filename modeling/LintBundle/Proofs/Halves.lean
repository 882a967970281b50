import LintBundle.Console.Layout
import LintBundle.Proofs.Escaping

/-!
# Proofs/Halves — halves of pairs on the console

    console text ──▸ pieces ──▸ plain text ──▸ lines

A console leaves tags out of a text, puts symbols for their names and breaks it into lines.
Whatever it puts in are characters, so a half of a surrogate pair that shows was in the text
(`Markup.half_mem_text`, `Layout.half_mem_lines`). -/

namespace LintBundle

namespace Text

/-- The pieces of a text have its code points. -/
theorem mem_of_mem_split {α : Type} [DecidableEq α] {mark c : α} {cs piece : List α}
    (hpiece : piece ∈ split mark cs) (hc : c ∈ piece) : c ∈ cs := by
  induction cs generalizing piece with
  | nil =>
    obtain rfl : piece = [] := by simpa [split] using hpiece
    cases hc
  | cons first rest ih =>
    rw [split] at hpiece
    split at hpiece
    · rcases List.mem_cons.1 hpiece with rfl | hpiece
      · cases hc
      · exact List.mem_cons_of_mem _ (ih hpiece hc)
    · split at hpiece
      · obtain rfl : piece = [first] := by simpa using hpiece
        exact List.mem_singleton.1 hc ▸ List.mem_cons_self ..
      · rename_i next more hmore
        rcases List.mem_cons.1 hpiece with rfl | hpiece
        · rcases List.mem_cons.1 hc with rfl | hc
          · exact List.mem_cons_self ..
          · exact List.mem_cons_of_mem _ (ih (hmore ▸ List.mem_cons_self ..) hc)
        · exact List.mem_cons_of_mem _ (ih (hmore ▸ List.mem_cons_of_mem _ hpiece) hc)

end Text

namespace Layout

variable {p : Point} {i : Fin 2048} {width : ℕ}

theorem half_mem_withoutTabs {column : ℕ} {cs : List Point}
    (h : .half i ∈ withoutTabs column cs) : .half i ∈ cs := by
  induction cs generalizing column with
  | nil => exact h
  | cons c cs ih =>
    rw [withoutTabs] at h
    split at h
    · rcases List.mem_append.1 h with h | h
      · cases List.eq_of_mem_replicate h
      · exact List.mem_cons_of_mem _ (ih h)
    · rcases List.mem_cons.1 h with rfl | h
      · exact List.mem_cons_self ..
      · exact List.mem_cons_of_mem _ (ih h)

theorem half_mem_cut {cs : List Point} (h : .half i ∈ cut width cs) : .half i ∈ cs := by
  induction cs generalizing width with
  | nil => exact h
  | cons c cs ih =>
    rw [cut] at h
    split at h
    · cases h
    split at h
    · rcases List.mem_cons.1 h with rfl | h
      · exact List.mem_cons_self ..
      · exact List.mem_cons_of_mem _ (ih h)
    · cases List.mem_singleton.1 h

/-- What is taken from the front of a text was in it, or had been taken before. -/
theorem mem_of_mem_taken {c : Point} {begun cs : List Point} (h : p ∈ c :: begun ∨ p ∈ cs) :
    p ∈ begun ∨ p ∈ c :: cs := by
  rcases h with h | h
  · exact (List.mem_cons.1 h).elim (fun hc => .inr (List.mem_cons.2 (.inl hc))) .inl
  · exact .inr (List.mem_cons_of_mem _ h)

theorem mem_of_mem_wordsFrom {begun cs word : List Point} {hasWord : Bool}
    (hword : word ∈ wordsFrom begun hasWord cs) (hp : p ∈ word) : p ∈ begun ∨ p ∈ cs := by
  induction cs generalizing begun hasWord with
  | nil =>
    rw [wordsFrom] at hword
    split at hword
    · exact .inl (List.mem_reverse.1 (List.mem_singleton.1 hword ▸ hp))
    · cases hword
  | cons c cs ih =>
    rw [wordsFrom] at hword
    split at hword
    · rcases List.mem_cons.1 hword with rfl | hword
      · exact .inl (List.mem_reverse.1 hp)
      · exact .inr ((mem_of_mem_taken (ih hword)).resolve_left List.not_mem_nil)
    · exact mem_of_mem_taken (ih hword)

theorem mem_of_mem_pieces {begun cs piece : List Point} (hpiece : piece ∈ pieces width begun cs)
    (hp : p ∈ piece) : p ∈ begun ∨ p ∈ cs := by
  induction cs generalizing begun with
  | nil => exact .inl (List.mem_reverse.1 (List.mem_singleton.1 hpiece ▸ hp))
  | cons c cs ih =>
    rw [pieces] at hpiece
    split at hpiece
    · rcases List.mem_cons.1 hpiece with rfl | hpiece
      · exact .inl (List.mem_reverse.1 hp)
      · exact .inr ((mem_of_mem_taken (ih hpiece)).resolve_left List.not_mem_nil)
    · exact mem_of_mem_taken (ih hpiece)

theorem mem_of_mem_fill {breaksWords : Bool} {begun line : List Point} {words : List (List Point)}
    (hline : line ∈ fill breaksWords width begun words) (hp : p ∈ line) :
    p ∈ begun ∨ ∃ word ∈ words, p ∈ word := by
  induction words generalizing begun with
  | nil => exact .inl (List.mem_singleton.1 hline ▸ hp)
  | cons word words ih =>
    have hlater : (∃ word ∈ words, p ∈ word) → p ∈ begun ∨ ∃ w ∈ word :: words, p ∈ w :=
      fun h => .inr (List.exists_mem_cons_of_exists h)
    have hfirst : p ∈ word → p ∈ begun ∨ ∃ w ∈ word :: words, p ∈ w :=
      fun h => .inr (List.exists_mem_cons_of _ h)
    have hwhole : line ∈ (if begun.isEmpty then [] else [begun]) → p ∈ begun := by
      intro h
      split at h
      · cases h
      · exact List.mem_singleton.1 h ▸ hp
    rw [fill] at hline
    dsimp only at hline
    split at hline
    · rcases ih hline with h | h
      · exact (List.mem_append.1 h).elim .inl hfirst
      · exact hlater h
    split at hline
    · rcases List.mem_append.1 hline with hline | hline
      · rcases List.mem_append.1 hline with h | h
        · exact .inl (hwhole h)
        · have hpart := (List.dropLast_sublist _).subset h
          exact hfirst ((mem_of_mem_pieces hpart hp).resolve_left List.not_mem_nil)
      · rcases ih hline with h | h
        · cases hlast : (pieces width [] word).getLast? with
          | none => simp [hlast] at h
          | some last =>
            rw [hlast, Option.getD_some] at h
            have hpart := mem_of_mem_pieces (List.mem_of_getLast? hlast) h
            exact hfirst (hpart.resolve_left List.not_mem_nil)
        · exact hlater h
    · rcases List.mem_append.1 hline with h | h
      · exact .inl (hwhole h)
      · exact (ih h).elim hfirst hlater

theorem mem_of_mem_broken {breaking : Breaking} {content line : List Point}
    (hline : line ∈ broken breaking width content) (hp : p ∈ line) : p ∈ content := by
  unfold broken at hline
  split at hline
  case h_1 => exact List.mem_singleton.1 hline ▸ hp
  case h_2 => exact List.mem_singleton.1 hline ▸ hp
  case h_3 =>
    obtain ⟨word, hword, hpw⟩ := (mem_of_mem_fill hline hp).resolve_left List.not_mem_nil
    exact (mem_of_mem_wordsFrom hword hpw).resolve_left List.not_mem_nil

/-- **The lines of a text have the halves that are in it.** -/
theorem half_mem_lines {breaking : Breaking} {content line : List Point}
    (hline : line ∈ lines breaking width content) (h : .half i ∈ line) : .half i ∈ content := by
  obtain ⟨piece, hpiece, hline⟩ := List.mem_flatMap.1 hline
  obtain ⟨part, hpart, rfl⟩ := List.mem_map.1 hline
  have hpart := mem_of_mem_broken hpart (List.mem_of_mem_take h)
  exact Text.mem_of_mem_split hpiece (half_mem_withoutTabs hpart)

end Layout

namespace Emoji

variable {i : Fin 2048}

theorem half_mem_afterColon (pieces : List (List Point)) (h : .half i ∈ afterColon pieces) :
    ∃ piece ∈ pieces, .half i ∈ piece := by
  induction pieces using afterColon.induct with
  | case1 => cases h
  | case2 last => exact ⟨last, by simp, by simpa [afterColon] using h⟩
  | case3 content next rest hblank ih =>
    rw [afterColon, if_pos hblank, List.mem_append] at h
    rcases h with h | h
    · exact ⟨content, List.mem_cons_self .., by simpa using h⟩
    · obtain ⟨piece, hpiece, h⟩ := ih h
      exact ⟨piece, List.mem_cons_of_mem _ hpiece, h⟩
  | case4 content next rest hword ih =>
    rw [afterColon, if_neg hword, List.mem_append, List.mem_append] at h
    rcases h with (h | h) | h
    · refine ⟨content, List.mem_cons_self .., ?_⟩
      cases hsymbol : symbol? (Text.shapes content) <;> simp [hsymbol] at h
      exact h
    · exact ⟨next, by simp, h⟩
    · obtain ⟨piece, hpiece, h⟩ := ih h
      exact ⟨piece, by simp [hpiece], h⟩

theorem half_mem_expand {cs : List Point} (h : .half i ∈ expand cs) : .half i ∈ cs := by
  rw [expand] at h
  split at h
  · rename_i first rest hsplit
    rcases List.mem_append.1 h with h | h
    · exact Text.mem_of_mem_split (hsplit ▸ List.mem_cons_self ..) h
    · obtain ⟨piece, hpiece, h⟩ := half_mem_afterColon rest h
      exact Text.mem_of_mem_split (hsplit ▸ List.mem_cons_of_mem _ hpiece) h
  · cases h

end Emoji

namespace Markup

variable {p : Point} {i : Fin 2048}

theorem mem_of_mem_withoutSlashes {cs : List Point} (h : p ∈ withoutSlashes cs) : p ∈ cs := by
  induction cs using withoutSlashes.induct with
  | case1 rest ih =>
    rw [withoutSlashes] at h
    rcases List.mem_cons.1 h with rfl | h
    · simp
    · exact List.mem_cons_of_mem _ (List.mem_cons_of_mem _ (ih h))
  | case2 c rest hne ih =>
    rw [withoutSlashes] at h
    · rcases List.mem_cons.1 h with rfl | h
      · exact List.mem_cons_self ..
      · exact List.mem_cons_of_mem _ (ih h)
    · exact hne
  | case3 => exact h

theorem half_mem_plain {cs : List Point} (h : .half i ∈ plain cs) : .half i ∈ cs :=
  mem_of_mem_withoutSlashes (Emoji.half_mem_expand (List.mem_of_mem_filter h))

/-- What is outside of tags is made of the parts, brackets and backslashes. -/
theorem half_mem_of_mem_pieces {before content : List Point} {parts : List (List Point)}
    (hpiece : .plain content ∈ pieces before parts) (h : .half i ∈ content) :
    .half i ∈ before ∨ ∃ part ∈ parts, .half i ∈ part := by
  induction parts generalizing before with
  | nil =>
    obtain rfl : content = before := by simpa [pieces] using hpiece
    exact .inl h
  | cons part parts ih =>
    have hlater : (∃ part ∈ parts, .half i ∈ part) →
        .half i ∈ before ∨ ∃ part' ∈ part :: parts, .half i ∈ part' :=
      fun h => .inr (List.exists_mem_cons_of_exists h)
    have hpart : .half i ∈ part → .half i ∈ before ∨ ∃ part' ∈ part :: parts, .half i ∈ part' :=
      fun h => .inr (List.exists_mem_cons_of _ h)
    rw [pieces] at hpiece
    split at hpiece
    · rcases ih hpiece with hp | hp
      · rcases List.mem_append.1 hp with hp | hp
        · exact .inl hp
        · exact hpart (by simpa using hp)
      · exact hlater hp
    · rename_i inside after htag
      obtain ⟨-, rfl, -⟩ := tag?_eq_some_iff.1 htag
      simp only [List.mem_cons, Piece.plain.injEq] at hpiece
      rcases hpiece with rfl | rfl | hpiece | hpiece
      · exact .inl (List.mem_of_mem_take h)
      · cases List.eq_of_mem_replicate h
      · split at hpiece
        · cases hpiece
          exact hpart (List.mem_append_left _ (by simpa using h))
        · cases hpiece
      · rcases ih hpiece with hp | hp
        · exact hpart (by simp [hp])
        · exact hlater hp

theorem half_mem_of_shown {opened : List Opened} {l : List Piece} {cs : List Point}
    (hshown : shown opened l = .ok cs) (h : .half i ∈ cs) :
    ∃ content, .plain content ∈ l ∧ .half i ∈ content := by
  induction l generalizing opened cs with
  | nil =>
    cases hshown
    cases h
  | cons piece l ih =>
    cases piece with
    | plain content =>
      rw [shown] at hshown
      obtain ⟨rest, hrest, rfl⟩ := map_eq_ok hshown
      rcases List.mem_append.1 h with h | h
      · exact ⟨content, List.mem_cons_self .., half_mem_plain h⟩
      · obtain ⟨content', hmem, h⟩ := ih hrest h
        exact ⟨content', List.mem_cons_of_mem _ hmem, h⟩
    | tag content =>
      rw [shown] at hshown
      obtain ⟨opened', -, hrest⟩ := bind_eq_ok_iff.1 hshown
      obtain ⟨content', hmem, h⟩ := ih hrest h
      exact ⟨content', List.mem_cons_of_mem _ hmem, h⟩

/-- **Of a console text, the halves that show are in it.** -/
theorem half_mem_text {cs shown : List Point} (hshown : text cs = .ok shown)
    (h : .half i ∈ shown) : .half i ∈ cs := by
  obtain ⟨content, hmem, h⟩ := half_mem_of_shown hshown h
  rw [ofText] at hmem
  split at hmem
  · rename_i before parts hsplit
    rcases half_mem_of_mem_pieces hmem h with h | ⟨part, hpart, h⟩
    · exact Text.mem_of_mem_split (hsplit ▸ List.mem_cons_self ..) h
    · exact Text.mem_of_mem_split (hsplit ▸ List.mem_cons_of_mem _ hpart) h
  · cases hmem

end Markup

end LintBundle
