import LintBundle.Proofs.Images
import LintBundle.Proofs.JsonReader
import LintBundle.Proofs.NumberText
import LintBundle.Proofs.QuotedText

/-!
# Proofs/JsonText — printed JSON data are read back

    print ──▸ text ++ rest ──value──▸ (data.paired, rest)

Whatever the layout is, data are read back from their text up to what follows, with the pairs of
halves in their texts joined (`paired`), and nothing of what follows is looked at but that no number
goes on with it.  The length of the text is room and, taken twice,
fuel enough: each step down into an array or object leaves two brackets behind, and each step along
its items a comma.  No text ends in a backslash.
-/

namespace LintBundle.Json

open Reader (EndsNumber value items members skipBlank)

/-! ## Blanks -/

/-- Blanks, as layouts put them between tokens. -/
def Blank (cs : List Char) : Prop := ∀ c ∈ cs, c = ' ' ∨ c = '\n'

theorem Blank.isBlank {cs : List Char} (h : Blank cs) : ∀ c ∈ cs, IsBlank c := fun c hc =>
  (h c hc).imp_right fun hn => .inr (.inl hn)

theorem blank_newline (layout : Layout) (level : ℕ) : Blank (layout.newline level) := by
  intro c hc
  cases layout with
  | none => cases hc
  | some indent =>
    rcases List.mem_cons.1 hc with rfl | hc
    · exact .inr rfl
    · exact .inl (List.eq_of_mem_replicate hc)

/-- Between two items stand a comma and blanks. -/
theorem separator_eq (layout : Layout) (level : ℕ) :
    ∃ blank, Blank blank ∧ layout.separator level = ',' :: blank := by
  cases layout with
  | none => exact ⟨[' '], by simp [Blank], rfl⟩
  | some indent => exact ⟨_, blank_newline (some indent) level, rfl⟩

/-- What begins with neither a digit nor a mark of a number ends one. -/
theorem endsNumber_cons {c : Char} (hc : c = ' ' ∨ c = '\n' ∨ c = ',' ∨ c = ']' ∨ c = '\x7d')
    (rest : List Char) : EndsNumber (c :: rest) := by
  intro c' hc'
  obtain rfl : c = c' := Option.some.inj hc'
  rcases hc with rfl | rfl | rfl | rfl | rfl <;> decide

theorem endsNumber_blank {blank : List Char} (h : Blank blank) {c : Char}
    (hc : c = ',' ∨ c = ']' ∨ c = '\x7d') (rest : List Char) : EndsNumber (blank ++ c :: rest) := by
  cases blank with
  | nil => exact endsNumber_cons (.inr (.inr hc)) rest
  | cons b blank =>
    have hb : b = ' ' ∨ b = '\n' := h b (List.mem_cons_self ..)
    refine endsNumber_cons ?_ _
    rcases hb with hb | hb
    · exact .inl hb
    · exact .inr (.inl hb)

/-! ## Items one after the other -/

/-- Items with separators between them. -/
def separated (layout : Layout) (level : ℕ) (texts : List (List Char)) : List Char :=
  (texts.intersperse (layout.separator level)).flatten

@[simp] theorem separated_singleton (layout : Layout) (level : ℕ) (text : List Char) :
    separated layout level [text] = text := by
  simp [separated]

theorem separated_cons (layout : Layout) (level : ℕ) (text : List Char) {texts : List (List Char)}
    (h : texts ≠ []) :
    separated layout level (text :: texts)
      = text ++ (layout.separator level ++ separated layout level texts) := by
  cases texts with
  | nil => exact absurd rfl h
  | cons text' texts => simp [separated]

/-- Items between brackets. -/
theorem enclosed_append (layout : Layout) (level : ℕ) (opening closing : Char)
    {texts : List (List Char)} (h : texts ≠ []) (rest : List Char) :
    layout.enclosed level opening closing texts ++ rest
      = opening :: (layout.newline (level + 1) ++ (separated layout (level + 1) texts
        ++ (layout.newline level ++ closing :: rest))) := by
  have hempty : texts.isEmpty = false := by simpa using h
  rw [Layout.enclosed, hempty]
  simp [separated]

theorem length_enclosed (layout : Layout) (level : ℕ) (opening closing : Char)
    {texts : List (List Char)} (h : texts ≠ []) :
    (separated layout (level + 1) texts).length + 2
      ≤ (layout.enclosed level opening closing texts).length := by
  have happend := congrArg List.length (enclosed_append layout level opening closing h [])
  simp only [List.length_append, List.length_cons, List.length_nil] at happend
  omega

/-! ## Data with pairs joined -/

mutual

/-- **Data with the pairs of halves joined** in all texts. -/
def paired : Json → Json
  | .str s => .str s.paired
  | .array items => .array (pairedItems items)
  | .object members => .object (pairedMembers members)
  | j => j

def pairedItems : List Json → List Json
  | [] => []
  | j :: rest => paired j :: pairedItems rest

def pairedMembers : List (Text × Json) → List (Text × Json)
  | [] => []
  | (name, j) :: rest => (name.paired, paired j) :: pairedMembers rest

end

theorem pairedMembers_eq_map (ms : List (Text × Json)) :
    pairedMembers ms = ms.map fun m => (m.1.paired, m.2.paired) := by
  induction ms with
  | nil => rfl
  | cons m ms ih => rw [pairedMembers, ih, List.map_cons]

mutual

/-- The texts in data, the names of members among them. -/
def texts : Json → List Text
  | .str s => [s]
  | .array items => textsItems items
  | .object members => textsMembers members
  | _ => []

def textsItems : List Json → List Text
  | [] => []
  | j :: rest => texts j ++ textsItems rest

def textsMembers : List (Text × Json) → List Text
  | [] => []
  | (name, j) :: rest => name :: (texts j ++ textsMembers rest)

end

mutual

/-- **Data whose texts have no pairs stay as they are.** -/
theorem paired_of_unpaired : ∀ {j : Json}, (∀ s ∈ texts j, s.Unpaired) → paired j = j
  | .str _, h => by rw [paired, Text.paired_of_unpaired (h _ (by simp [texts]))]
  | .array _, h => by rw [paired, pairedItems_of_unpaired h]
  | .object _, h => by rw [paired, pairedMembers_of_unpaired h]
  | .null, _ => rfl
  | .bool _, _ => rfl
  | .int _, _ => rfl
  | .float _, _ => rfl

theorem pairedItems_of_unpaired :
    ∀ {js : List Json}, (∀ s ∈ textsItems js, s.Unpaired) → pairedItems js = js
  | [], _ => rfl
  | j :: js, h => by
    rw [textsItems, List.forall_mem_append] at h
    rw [pairedItems, paired_of_unpaired h.1, pairedItems_of_unpaired h.2]

theorem pairedMembers_of_unpaired :
    ∀ {ms : List (Text × Json)}, (∀ s ∈ textsMembers ms, s.Unpaired) → pairedMembers ms = ms
  | [], _ => rfl
  | (name, j) :: ms, h => by
    rw [textsMembers, List.forall_mem_cons, List.forall_mem_append] at h
    rw [pairedMembers, Text.paired_of_unpaired h.1, paired_of_unpaired h.2.1,
      pairedMembers_of_unpaired h.2.2]

end

mutual

/-- **Joining pairs does not show in the text** of data. -/
theorem print_paired (layout : Layout) (level : ℕ) :
    ∀ j : Json, print layout level (paired j) = print layout level j
  | .str s => by rw [paired, print, print, quotedText_inj, Text.paired_paired]
  | .array items => by rw [paired, print, print, printItems_paired]
  | .object members => by rw [paired, print, print, printMembers_paired]
  | .null => rfl
  | .bool _ => rfl
  | .int _ => rfl
  | .float _ => rfl

theorem printItems_paired (layout : Layout) (level : ℕ) :
    ∀ js : List Json, printItems layout level (pairedItems js) = printItems layout level js
  | [] => rfl
  | j :: js => by
    rw [pairedItems, printItems, printItems, print_paired layout level j, printItems_paired]

theorem printMembers_paired (layout : Layout) (level : ℕ) :
    ∀ ms : List (Text × Json),
      printMembers layout level (pairedMembers ms) = printMembers layout level ms
  | [] => rfl
  | (name, j) :: ms => by
    rw [pairedMembers, printMembers, printMembers, print_paired layout level j,
      quotedText_inj.2 (Text.paired_paired name), printMembers_paired]

end

/-! ## The round trip -/

theorem printItems_ne_nil (layout : Layout) (level : ℕ) {js : List Json} (h : js ≠ []) :
    printItems layout level js ≠ [] := by
  cases js with
  | nil => exact absurd rfl h
  | cons j js => simp [printItems]

theorem printMembers_ne_nil (layout : Layout) (level : ℕ) {ms : List (Text × Json)}
    (h : ms ≠ []) : printMembers layout level ms ≠ [] := by
  cases ms with
  | nil => exact absurd rfl h
  | cons m ms => obtain ⟨name, j⟩ := m; simp [printMembers]

/-- Printed data are no empty text. -/
theorem print_length_pos (layout : Layout) (level : ℕ) {j : Json} (hj : j.Readable) :
    0 < (print layout level j).length := by
  have scalar : ∀ {cs found}, Reader.scalar (cs ++ []) = .ok found → 0 < cs.length := by
    intro cs found h
    obtain ⟨c, r, hform, -⟩ := head_of_scalar h
    rw [List.append_nil] at hform
    rw [hform]
    exact Nat.succ_pos _
  have enclosed : ∀ opening closing texts,
      0 < (layout.enclosed level opening closing texts).length := by
    intro opening closing texts
    rw [Layout.enclosed]
    split
    · exact Nat.succ_pos _
    · exact Nat.succ_pos _
  have hend : EndsNumber [] := by simp [EndsNumber]
  cases j with
  | null => exact Nat.succ_pos _
  | bool b => cases b <;> exact Nat.succ_pos _
  | int n => exact scalar (Reader.scalar_intText hj hend)
  | float x => exact scalar (Reader.scalar_floatText x hend)
  | str s => exact Nat.succ_pos _
  | array js => exact enclosed _ _ _
  | object ms => exact enclosed _ _ _

/-- A member is read up to its value. -/
theorem names_member (name : Text) (text more : List Char) :
    Names ((quotedText name ++ ':' :: ' ' :: text) ++ more) name.paired
      (' ' :: (text ++ more)) := by
  obtain ⟨body, hbody, htext⟩ := text_quotedText name (':' :: ' ' :: (text ++ more))
  refine ⟨body, _, ?_, htext, rfl⟩
  rw [List.append_assoc, List.cons_append, List.cons_append, hbody]
  rfl

mutual

/-- **Printed data are read back**, up to what follows. -/
theorem value_print (layout : Layout) (level : ℕ) (j : Json) (hj : j.Readable) {room fuel : ℕ}
    {rest : List Char} (hroom : (print layout level j).length ≤ room)
    (hfuel : 2 * (print layout level j).length ≤ fuel) (hrest : EndsNumber rest) :
    value room fuel (print layout level j ++ rest) = .ok (j.paired, rest) := by
  have hpos := print_length_pos layout level hj
  obtain ⟨fuel, rfl⟩ : ∃ n, fuel = n + 1 := ⟨fuel - 1, by omega⟩
  obtain ⟨room, rfl⟩ : ∃ n, room = n + 1 := ⟨room - 1, by omega⟩
  cases j with
  | null => exact value_of_scalar rfl _ _
  | bool b => cases b <;> exact value_of_scalar rfl _ _
  | int n => exact value_of_scalar (Reader.scalar_intText hj hrest) _ _
  | float x => exact value_of_scalar (Reader.scalar_floatText x hrest) _ _
  | str s =>
    obtain ⟨body, hbody, htext⟩ := text_quotedText s rest
    have hquote : skipBlank (quotedText s ++ rest) = '"' :: body := by
      rw [hbody]
      rfl
    exact (value_quote hquote).2 ⟨s.paired, rfl, htext⟩
  | array js =>
    by_cases hjs : js = []
    · subst hjs
      rfl
    · have hne := printItems_ne_nil layout (level + 1) hjs
      have hlength := length_enclosed layout level '[' ']' hne
      rw [print] at hroom hfuel ⊢
      rw [enclosed_append layout level '[' ']' hne]
      refine (value_bracket rfl).2 ⟨pairedItems js, rfl, .inr ?_⟩
      rw [items_blanks (blank_newline layout _).isBlank]
      exact items_print layout (level + 1) js hjs hj (blank_newline layout _) (by omega) (by omega)
  | object ms =>
    by_cases hms : ms = []
    · subst hms
      rfl
    · have hne := printMembers_ne_nil layout (level + 1) hms
      have hlength := length_enclosed layout level '\x7b' '\x7d' hne
      rw [print] at hroom hfuel ⊢
      rw [enclosed_append layout level '\x7b' '\x7d' hne]
      refine (value_brace rfl).2 ⟨pairedMembers ms, rfl, .inr ?_⟩
      rw [members_blanks (blank_newline layout _).isBlank]
      exact members_print layout (level + 1) ms hms hj (blank_newline layout _) (by omega)
        (by omega)

/-- Items are read back up to the bracket behind them. -/
theorem items_print (layout : Layout) (level : ℕ) (js : List Json) (hne : js ≠ [])
    (hj : ReadableItems js) {room fuel : ℕ} {blank rest : List Char} (hb : Blank blank)
    (hroom : (separated layout level (printItems layout level js)).length ≤ room)
    (hfuel : 2 * (separated layout level (printItems layout level js)).length + 1 ≤ fuel) :
    items room fuel (separated layout level (printItems layout level js) ++ (blank ++ ']' :: rest))
      = .ok (pairedItems js, rest) := by
  obtain ⟨fuel, rfl⟩ : ∃ n, fuel = n + 1 := ⟨fuel - 1, by omega⟩
  cases js with
  | nil => exact absurd rfl hne
  | cons j js =>
    by_cases hjs : js = []
    · subst hjs
      rw [printItems, printItems, separated_singleton] at hroom hfuel ⊢
      have hvalue : value room fuel (print layout level j ++ _) = .ok (j.paired, _) :=
        value_print layout level j hj.1 hroom (by omega)
          (endsNumber_blank hb (.inr (.inl rfl)) rest)
      exact items_ok_iff.2 ⟨j.paired, _, hvalue, .inl ⟨skipBlank_blanks hb.isBlank _, rfl⟩⟩
    · have hmore := printItems_ne_nil layout level hjs
      obtain ⟨gap, hgap, hsep⟩ := separator_eq layout level
      rw [printItems, separated_cons layout level _ hmore, hsep] at hroom hfuel ⊢
      simp only [List.length_append, List.length_cons] at hroom hfuel
      rw [List.append_assoc, List.append_assoc]
      have hvalue : value room fuel (print layout level j ++ _) = .ok (j.paired, _) :=
        value_print layout level j hj.1 (by omega) (by omega)
          (endsNumber_cons (c := ',') (by decide) (gap ++
            (separated layout level (printItems layout level js) ++ (blank ++ ']' :: rest))))
      refine items_ok_iff.2 ⟨j.paired, _, hvalue, .inr ⟨_, pairedItems js, rfl, ?_, rfl⟩⟩
      rw [items_blanks hgap.isBlank]
      exact items_print layout level js hjs hj.2 hb (by omega) (by omega)

/-- Members are read back up to the bracket behind them. -/
theorem members_print (layout : Layout) (level : ℕ) (ms : List (Text × Json)) (hne : ms ≠ [])
    (hj : ReadableMembers ms) {room fuel : ℕ} {blank rest : List Char} (hb : Blank blank)
    (hroom : (separated layout level (printMembers layout level ms)).length ≤ room)
    (hfuel : 2 * (separated layout level (printMembers layout level ms)).length + 1 ≤ fuel) :
    members room fuel
        (separated layout level (printMembers layout level ms) ++ (blank ++ '\x7d' :: rest))
      = .ok (pairedMembers ms, rest) := by
  obtain ⟨fuel, rfl⟩ : ∃ n, fuel = n + 1 := ⟨fuel - 1, by omega⟩
  cases ms with
  | nil => exact absurd rfl hne
  | cons m ms =>
    obtain ⟨name, j⟩ := m
    have hspace : ∀ c ∈ [' '], IsBlank c := List.forall_mem_singleton.2 (.inl rfl)
    by_cases hms : ms = []
    · subst hms
      rw [printMembers, printMembers, separated_singleton] at hroom hfuel ⊢
      simp only [List.length_append, List.length_cons] at hroom hfuel
      have hvalue : value room fuel (print layout level j ++ _) = .ok (j.paired, _) :=
        value_print layout level j hj.1 (by omega) (by omega)
          (endsNumber_blank hb (.inr (.inr rfl)) rest)
      rw [← value_blanks hspace] at hvalue
      exact members_ok_iff.2 ⟨name.paired, j.paired, _, _, names_member name _ _, hvalue,
        .inl ⟨skipBlank_blanks hb.isBlank _, rfl⟩⟩
    · have hmore := printMembers_ne_nil layout level hms
      obtain ⟨gap, hgap, hsep⟩ := separator_eq layout level
      rw [printMembers, separated_cons layout level _ hmore, hsep] at hroom hfuel ⊢
      simp only [List.length_append, List.length_cons] at hroom hfuel
      have hvalue : value room fuel (print layout level j ++ _) = .ok (j.paired, _) :=
        value_print layout level j hj.1 (by omega) (by omega)
          (endsNumber_cons (c := ',') (by decide) (gap ++
            (separated layout level (printMembers layout level ms) ++ (blank ++ '\x7d' :: rest))))
      rw [← value_blanks hspace] at hvalue
      rw [List.append_assoc, List.cons_append, List.cons_append, List.append_assoc gap]
      refine members_ok_iff.2 ⟨name.paired, j.paired, _, _, names_member name _ _, hvalue,
        .inr ⟨_, pairedMembers ms, rfl, ?_, rfl⟩⟩
      rw [members_blanks hgap.isBlank]
      exact members_print layout level ms hms hj.2 hb (by omega) (by omega)

end

end LintBundle.Json

namespace LintBundle

/-! ## How texts end -/

namespace Binary64

theorem Numeral.WellFormed.notMem_text {x : Numeral} (hx : x.WellFormed) : '\\' ∉ x.text := by
  have hdigit : ∀ d < 10, Char.ofNat ('0'.toNat + d) ≠ '\\' := by decide
  have hdigits : '\\' ∉ digitChars x.digits := by
    intro hmem
    obtain ⟨d, hd, heq⟩ := List.mem_map.1 hmem
    exact hdigit d (hx.digits d hd) heq
  have hplaces : ∀ n, '\\' ∉ decimalText n := notMem_decimalText rfl
  have htake : ∀ n, '\\' ∉ (digitChars x.digits).take n :=
    fun n hmem => hdigits (List.mem_of_mem_take hmem)
  have hdrop : ∀ n, '\\' ∉ (digitChars x.digits).drop n :=
    fun n hmem => hdigits (List.mem_of_mem_drop hmem)
  have htail : '\\' ∉ (digitChars x.digits).tail := fun hmem => hdigits (List.mem_of_mem_tail hmem)
  rw [Numeral.text, ← digitChars]
  generalize digitChars x.digits = ds at *
  dsimp only
  split
  · split
    · simp [hdigits]
    · split <;> simp [htake, hdrop]
  · split <;> split <;> split <;> simp [htake, htail, hplaces]

end Binary64

namespace Json

theorem notMem_intText (n : ℤ) : '\\' ∉ intText n := by
  have hdigits : '\\' ∉ decimalText n.natAbs := notMem_decimalText rfl _
  rw [intText]
  split
  · simpa using hdigits
  · exact hdigits

theorem notMem_floatText (x : Binary64) : '\\' ∉ floatText x := by
  cases x with
  | nan => decide
  | infinite negative => cases negative <;> decide
  | finite negative m q hc =>
    have hbody : '\\' ∉ if m = 0 then ['0', '.', '0'] else (Binary64.shortest m q).text := by
      split
      · decide
      · rename_i hm
        exact (Binary64.shortest_names hm hc).2.notMem_text
    change '\\' ∉ (if negative then '-' :: _ else _)
    split
    · simpa using hbody
    · exact hbody

/-- **A JSON text does not end in a backslash.** -/
theorem getLast?_print (layout : Layout) (level : ℕ) (j : Json) :
    (print layout level j).getLast? ≠ some '\\' := by
  have of_notMem : ∀ {cs : List Char}, '\\' ∉ cs → cs.getLast? ≠ some '\\' :=
    fun h hlast => h (List.mem_of_getLast? hlast)
  have of_enclosed : ∀ {opening closing : Char} {texts : List (List Char)}, closing ≠ '\\' →
      (layout.enclosed level opening closing texts).getLast? ≠ some '\\' := by
    intro opening closing texts h
    rw [Layout.enclosed]
    split
    · simpa using h
    · rw [List.getLast?_concat]
      simpa using h
  cases j with
  | null => exact of_notMem (by rw [print]; decide)
  | bool b => exact of_notMem (by cases b <;> rw [print] <;> decide)
  | int n => exact of_notMem (notMem_intText n)
  | float x => exact of_notMem (notMem_floatText x)
  | str s =>
    rw [print, quotedText, List.getLast?_concat]
    decide
  | array items => exact of_enclosed (by decide)
  | object members => exact of_enclosed (by decide)

end Json

end LintBundle
