import LintBundle.Loader.Directory
import LintBundle.Proofs.Denoting
import LintBundle.Proofs.JsonGrammar
import LintBundle.Proofs.PlainNumbers

/-!
# Proofs/Subset — the JSON that YAML reads as JSON does

    json ──Within── shared ──line breaks made one──▸ flow

JSON is not a subset of the YAML that is read.  What they share is a dialect (`shared`), JSON whose
leaves YAML takes for what JSON takes them for: a text in it reads as the same data in both
(`reads_alike`), so it does not matter by which of them a file is read.  Outside it they differ:
each JSON word that is not shared is a text to YAML (`word_reads_as_text`), and a tab is nothing at
all. -/

namespace LintBundle.Yaml

open Json (Units Word Written json)

/-! ## The dialect -/

/-- The words both read alike. -/
inductive SharedWord : List Char → Json → Prop
  | null : SharedWord "null".toList .null
  | true : SharedWord "true".toList (.bool true)
  | false : SharedWord "false".toList (.bool false)
  | number {x : Written} (h : x.WellFormed) (hplain : x.isPlain = true) : SharedWord x.text x.value

/-- A character that YAML allows, and takes for no line break. -/
def isVisible (c : Char) : Bool := isAllowed c && !isBreak c && c ≠ '\r' && c ≠ '\x85'

theorem isVisible_iff {c : Char} : isVisible c = true ↔
    isAllowed c = true ∧ isBreak c = false ∧ c ≠ '\r' ∧ c ≠ '\x85' := by
  simp [isVisible, and_assoc]

/-- **What JSON and YAML share**: no tab is a blank, a number is plain, no half in a quoted text is
followed by the second half of its pair, a quoted text is in one line, and a name is short and in
one line with its colon. -/
def shared : Dialect where
  blank c := c = ' ' ∨ c = '\n' ∨ c = '\r'
  word := SharedWord
  quotes raw text :=
    Units raw text ∧ (Text.ofList text).Unpaired ∧ ∀ c ∈ raw, isVisible c = true
  name raw s := (∀ c ∈ s, c = ' ') ∧ raw.length + 2 + s.length ≤ 1024

/-- **The shared dialect is JSON.** -/
theorem shared_within_json : shared.Within json where
  blank h := h.imp_right fun h => .inr h
  word h := by
    cases h with
    | null => exact .named (by simp [Json.Reader.words])
    | true => exact .named (by simp [Json.Reader.words])
    | false => exact .named (by simp [Json.Reader.words])
    | number h _ => exact .number h
  quotes := fun ⟨hraw, hunpaired, _⟩ => ⟨_, hraw, (Json.joined_eq_self hunpaired).symm⟩
  name _ := trivial

/-! ## Leaves in YAML -/

/-- The units in one line are the text that YAML takes them for. -/
theorem quotes_of_units {raw : List Char} {us : List Point} (h : Units raw us)
    (visible : ∀ c ∈ raw, isVisible c = true) : Quotes raw us := by
  induction h with
  | nil => exact .nil
  | @char c raw us hquote hslash hcontrol _ ih =>
    obtain ⟨hc, hraw⟩ := List.forall_mem_cons.1 visible
    have hbreak : isBreak c = false := (isVisible_iff.1 hc).2.1
    exact .char ⟨hquote, hslash, hbreak, hcontrol⟩ (ih hraw)
  | letter h _ ih => exact .letter h (ih fun c hc => visible c (by simp [hc]))
  | code h _ ih => exact .code h (ih fun c hc => visible c (by simp [hc]))

/-- The words of JSON are plain scalars of one word. -/
theorem isWord_of_json {w : List Char} {j : Json} (h : Word w j) : IsWord w := by
  cases h with
  | named h =>
    have hall : ∀ e ∈ Json.Reader.words.map (·.1.toList), ((firstOf e).isAlphanum = true ∨
        firstOf e = '-' ∧ (firstOf (e.drop 1)).isAlphanum = true) ∧
        e.all isWordChar = true := by decide
    obtain ⟨begins, chars⟩ := hall _ (List.mem_map_of_mem h)
    exact ⟨begins, List.all_eq_true.1 chars⟩
  | @number x h =>
    obtain ⟨c, r, hbody, hc⟩ := Written.body_head h
    have hfirst : (firstOf x.body).isAlphanum = true := by
      rw [hbody, firstOf, Char.isAlphanum, hc, Bool.or_true]
    refine ⟨?_, Written.text_forall h (by decide)⟩
    rw [Written.text]
    split
    · exact .inr ⟨rfl, hfirst⟩
    · exact .inl hfirst

/-- Those that are shared are read as the data they are in JSON. -/
theorem SharedWord.read {w : List Char} {j : Json} (h : SharedWord w j) :
    (Tag.ofSpelling w).read (w.map .char) = .ok j.toValue := by
  cases h with
  | null => rfl
  | true => rfl
  | false => rfl
  | number h hplain => exact Written.read_text h hplain

/-! ## One kind of line break -/

/-- One line break for each way to end a line, in a text that may stand behind a carriage return. -/
def unifyFrom (returned : Bool) : List Char → List Char
  | [] => []
  | c :: r =>
    if c = '\n' ∧ returned = true then unifyFrom false r
    else (if c = '\r' ∨ c = '\x85' then '\n' else c) :: unifyFrom (c = '\r') r

theorem unifyFrom_true {r : List Char} (h : r.head? ≠ some '\n') :
    unifyFrom true r = unifyFrom false r := by
  cases r with
  | nil => rfl
  | cons c r =>
    have hno : ∀ returned, ¬ (c = '\n' ∧ returned = true) := fun _ hc => h (congrArg some hc.1)
    rw [unifyFrom, unifyFrom, if_neg (hno true), if_neg (hno false)]

theorem unifyBreaks_eq (cs : List Char) : unifyBreaks cs = unifyFrom false cs := by
  induction cs using unifyBreaks.induct with
  | case1 r ih => rw [unifyBreaks, ih]; rfl
  | case2 c r hpair ih =>
    have hno : ¬ (c = '\n' ∧ false = true) := fun hc => Bool.false_ne_true hc.2
    have hnext : unifyFrom (decide (c = '\r')) r = unifyFrom false r := by
      by_cases hc : c = '\r'
      · rw [decide_eq_true hc]
        refine unifyFrom_true fun hhead => ?_
        obtain ⟨r', hr⟩ := List.head?_eq_some_iff.1 hhead
        exact hpair r' hc hr
      · rw [decide_eq_false hc]
    rw [unifyBreaks, ih, unifyFrom, if_neg hno, hnext]
    · simp only [Bool.or_eq_true, decide_eq_true_eq]
    · exact hpair
  | case3 => rfl

/-- What follows a part of a text depends on the part by its last character alone. -/
theorem unifyFrom_append (returned : Bool) (a : List Char) : ∃ after, ∀ b,
    unifyFrom returned (a ++ b) = unifyFrom returned a ++ unifyFrom after b := by
  induction a generalizing returned with
  | nil => exact ⟨returned, fun _ => rfl⟩
  | cons c a ih =>
    by_cases hc : c = '\n' ∧ returned = true
    · obtain ⟨after, hafter⟩ := ih false
      refine ⟨after, fun b => ?_⟩
      rw [List.cons_append, unifyFrom, unifyFrom, if_pos hc, if_pos hc, hafter]
    · obtain ⟨after, hafter⟩ := ih (decide (c = '\r'))
      refine ⟨after, fun b => ?_⟩
      rw [List.cons_append, unifyFrom, unifyFrom, if_neg hc, if_neg hc, hafter, List.cons_append]

/-- A character that is part of no line break, whatever it stands behind. -/
def IsInline (c : Char) : Prop := c ≠ '\n' ∧ c ≠ '\r' ∧ c ≠ '\x85'

instance (c : Char) : Decidable (IsInline c) := inferInstanceAs (Decidable (_ ∧ _))

theorem unifyFrom_cons {c : Char} (hc : IsInline c) (returned : Bool) (cs : List Char) :
    unifyFrom returned (c :: cs) = c :: unifyFrom false cs := by
  obtain ⟨hn, hr, hnel⟩ := hc
  have hno : ¬ (c = '\n' ∧ returned = true) := fun h => hn h.1
  have hkept : ¬ (c = '\r' ∨ c = '\x85') := fun h => h.elim hr hnel
  rw [unifyFrom, if_neg hno, if_neg hkept, decide_eq_false hr]

/-- A text in one line stays as it is. -/
theorem unifyFrom_inline {a : List Char} (ha : ∀ c ∈ a, IsInline c) (returned : Bool) :
    unifyFrom returned a = a := by
  induction a generalizing returned with
  | nil => rfl
  | cons c a ih =>
    obtain ⟨hc, ha⟩ := List.forall_mem_cons.1 ha
    rw [unifyFrom_cons hc, ih ha]

/-- Blanks become blanks. -/
theorem unifyFrom_blanks {b : List Char} (hb : ∀ c ∈ b, shared.blank c) (returned : Bool) :
    ∀ c ∈ unifyFrom returned b, flow.blank c := by
  induction b generalizing returned with
  | nil => exact List.forall_mem_nil _
  | cons c b ih =>
    obtain ⟨hc, hb⟩ := List.forall_mem_cons.1 hb
    rw [unifyFrom]
    split
    · exact ih hb false
    · refine List.forall_mem_cons.2 ⟨?_, ih hb _⟩
      rcases hc with rfl | rfl | rfl
      · exact .inl rfl
      · exact .inr rfl
      · exact .inr rfl

/-- A part of a text whose ends are inline. -/
theorem unifyFrom_enclosed {first last : Char} (hfirst : IsInline first) (hlast : IsInline last)
    (returned : Bool) (cs : List Char) : unifyFrom returned (first :: (cs ++ [last]))
      = first :: (unifyFrom false cs ++ [last]) := by
  obtain ⟨after, hafter⟩ := unifyFrom_append false cs
  rw [unifyFrom_cons hfirst, hafter, unifyFrom_cons hlast]
  rfl

/-- Two parts of a text with a mark between them. -/
theorem unifyFrom_joined {mark : Char} (hmark : IsInline mark) (returned : Bool)
    (cs cs' : List Char) : unifyFrom returned (cs ++ mark :: cs')
      = unifyFrom returned cs ++ mark :: unifyFrom false cs' := by
  obtain ⟨after, hafter⟩ := unifyFrom_append returned cs
  rw [hafter, unifyFrom_cons hmark]

/-! ## Texts of the dialect -/

theorem isInline_of_visible {c : Char} (h : isVisible c = true) : IsInline c := by
  obtain ⟨-, hbreak, hinline⟩ := isVisible_iff.1 h
  refine ⟨?_, hinline⟩
  rintro rfl
  cases hbreak

/-- What stands between quotes stays as it is. -/
theorem shared_quotes {raw : List Char} {text : List Point} (h : shared.quotes raw text) :
    Quotes raw text ∧ ∀ c ∈ raw, IsInline c := by
  obtain ⟨hraw, -, visible⟩ := h
  exact ⟨quotes_of_units hraw visible, fun c hc => isInline_of_visible (visible c hc)⟩

theorem isInline_word {w : List Char} (h : IsWord w) : ∀ c ∈ w, IsInline c := by
  intro c hc
  have hword := h.chars c hc
  refine ⟨?_, ?_, ?_⟩ <;> rintro rfl <;> cases hword

theorem isAllowed_of_wordChar {c : Char} (h : isWordChar c = true) : isAllowed c = true := by
  have hrange : 0x20 ≤ c.toNat ∧ c.toNat ≤ 0x7e := by
    have hrange : ∀ a b : UInt32, a ≤ c.val ∧ c.val ≤ b → 0x20 ≤ a.toNat → b.toNat ≤ 0x7e →
        0x20 ≤ c.toNat ∧ c.toNat ≤ 0x7e := fun a b hcode ha hb =>
      ⟨ha.trans (UInt32.le_iff_toNat_le.1 hcode.1), (UInt32.le_iff_toNat_le.1 hcode.2).trans hb⟩
    have hboth : ∀ {a b : UInt32}, (decide (a ≤ c.val) && decide (c.val ≤ b)) = true →
        a ≤ c.val ∧ c.val ≤ b := by simp
    simp only [isWordChar, Char.isAlphanum, Bool.or_eq_true, decide_eq_true_eq] at h
    rcases h with (((h | h) | rfl) | rfl) | rfl
    · rcases Bool.or_eq_true_iff.1 h with h | h
      · exact hrange 'A'.val 'Z'.val (of_decide_eq_true h) (by decide) (by decide)
      · exact hrange 'a'.val 'z'.val (hboth h) (by decide) (by decide)
    · exact hrange '0'.val '9'.val (hboth h) (by decide) (by decide)
    · decide
    · decide
    · decide
  simp [isAllowed, hrange]

/-- **A shared text is one of the lexer's dialect**, once its line breaks are of one kind. -/
theorem Spells.unify {form : Form} {cs : List Char} (h : Spells shared form cs) (returned : Bool) :
    Spells flow form (unifyFrom returned cs) := by
  induction h generalizing returned with
  | word h =>
    have hword := isWord_of_json (shared_within_json.word h)
    rw [unifyFrom_inline (isInline_word hword)]
    exact .word ⟨hword, h.read⟩
  | quoted h =>
    obtain ⟨hquotes, hinline⟩ := shared_quotes h
    rw [unifyFrom_enclosed (by decide) (by decide), unifyFrom_inline hinline]
    exact .quoted hquotes
  | @padded form b cs b' hb hb' _ ih =>
    obtain ⟨after, hafter⟩ := unifyFrom_append returned b
    obtain ⟨after', hafter'⟩ := unifyFrom_append after cs
    rw [hafter, hafter']
    exact .padded (unifyFrom_blanks hb _) (unifyFrom_blanks hb' _) (ih after)
  | noItems hb =>
    rw [unifyFrom_enclosed (by decide) (by decide)]
    exact .noItems (unifyFrom_blanks hb _)
  | array _ ih =>
    rw [unifyFrom_enclosed (by decide) (by decide)]
    exact .array (ih false)
  | lastItem _ ih => exact .lastItem (ih returned)
  | item _ _ ih ih' =>
    rw [unifyFrom_joined (by decide)]
    exact .item (ih returned) (ih' false)
  | noMembers hb =>
    rw [unifyFrom_enclosed (by decide) (by decide)]
    exact .noMembers (unifyFrom_blanks hb _)
  | object _ ih =>
    rw [unifyFrom_enclosed (by decide) (by decide)]
    exact .object (ih false)
  | member hname _ hgap _ ih =>
    obtain ⟨hquotes, hinline⟩ := shared_quotes hname
    have hs : ∀ c ∈ _, IsInline c := fun c hc => by rw [hgap.1 c hc]; decide
    rw [unifyFrom_cons (by decide), unifyFrom_joined (by decide), unifyFrom_joined (by decide),
      unifyFrom_inline hinline, unifyFrom_inline hs]
    exact .member hquotes (fun c hc => .inl (hgap.1 c hc)) hgap (ih false)
  | lastMember _ ih => exact .lastMember (ih returned)
  | moreMembers _ _ ih ih' =>
    rw [unifyFrom_joined (by decide)]
    exact .moreMembers (ih returned) (ih' false)

/-- A shared text holds no character that YAML refuses. -/
theorem Spells.allowed {form : Form} {cs : List Char} (h : Spells shared form cs) :
    cs.all isAllowed = true := by
  have hmarks : ['"', ',', ':', '[', ']', '\x7b', '\x7d'].all isAllowed = true := by decide
  refine List.all_eq_true.2 (h.forall_mem (List.all_eq_true.1 hmarks) ?_ ?_ ?_)
  · rintro c (rfl | rfl | rfl) <;> rfl
  · intro w j hw c hc
    exact isAllowed_of_wordChar ((isWord_of_json (shared_within_json.word hw)).chars c hc)
  · rintro raw text ⟨-, -, visible⟩ c hc
    exact (isVisible_iff.1 (visible c hc)).1

/-! ## Both readers -/

mutual

theorem depth_le_levels : ∀ j : Json, j.depth ≤ j.levels + 1
  | .null | .bool _ | .int _ | .float _ | .str _ => Nat.zero_le _
  | .array js => Nat.succ_le_succ (depthItems_le_levels js)
  | .object ms => Nat.succ_le_succ (depthMembers_le_levels ms)

theorem depthItems_le_levels : ∀ js : List Json, Json.depthItems js ≤ Json.levelsItems js
  | [] => Nat.zero_le _
  | j :: js => max_le_max (depth_le_levels j) (depthItems_le_levels js)

theorem depthMembers_le_levels :
    ∀ ms : List (Text × Json), Json.depthMembers ms ≤ Json.levelsMembers ms
  | [] => Nat.zero_le _
  | (_, j) :: ms => max_le_max (depth_le_levels j) (depthMembers_le_levels ms)

end

/-- **JSON texts of the shared dialect are read alike**: as JSON they are read, as YAML they are
read as the same data, and so it does not matter by which of them a file is read. -/
theorem reads_alike {cs : List Char} {j : Json} (h : Spells shared (.data j) cs)
    (hlevels : j.levels ≤ Draft.nestingLimit) :
    Json.read cs = .ok j ∧ Yaml.read cs = .ok j.toValue ∧
      ∀ (files : Files) (p : Path), files.readText p = .ok cs →
        files.readValue p = .ok j.toValue ∧
          ∀ document, Document.ofValue j.toValue = .ok document →
            files.readConfig p = .ok document := by
  have hjson : Json.read cs = .ok j := by
    refine Json.read_ok_iff.2 ⟨h.mono shared_within_json, ?_⟩
    have hdepth := depth_le_levels j
    have hlimits : Draft.nestingLimit + 1 ≤ Json.Reader.nestingLimit := by decide
    omega
  have hyaml : Yaml.read cs = .ok j.toValue := by
    refine Spells.read ?_ h.allowed hlevels
    rw [unifyBreaks_eq]
    exact h.unify false
  refine ⟨hjson, hyaml, fun files p htext => ⟨?_, fun document hdocument => ?_⟩⟩
  · rw [Files.readValue, htext]
    change (if p.hasExtension ".json" then Files.parsed p ((Json.read cs).map Json.toValue)
      else Files.parsed p (Yaml.read cs)) = _
    rw [hjson, hyaml]
    split <;> rfl
  · have hparsed : Files.parsed p (.ok j.toValue) = .ok j.toValue := rfl
    rw [Files.readConfig, htext]
    simp only [bind, Except.bind, hyaml, hparsed, hdocument]

/-- A number with all its parts. -/
def fullNumber : Written := ⟨true, [1], [5], some ⟨true, some false, [3]⟩⟩

theorem fullNumber_wellFormed : fullNumber.WellFormed where
  whole := ⟨by decide, by decide, by decide⟩
  part := by decide
  exponent := by
    intro e he
    obtain rfl := Option.some.inj he
    exact ⟨by decide, by decide⟩
  short := by decide

/-- Two members, each in a line of its own. -/
def twoLines : Json := .object [("a", fullNumber.value), ("b", .array [.null])]

/-- The text of both lines. -/
def twoLinesText : String := "\x7b\"a\" : -1.5E+3,\n \"b\":[null]\x7d"

theorem twoLines_spelled : Spells shared (.data twoLines) twoLinesText.toList := by
  have name : ∀ {c : Char}, c ≠ '"' → c ≠ '\\' → 0x20 ≤ c.toNat → isVisible c = true →
      shared.quotes [c] [.char c] := fun hquote hslash hcontrol hvisible =>
    ⟨.char hquote hslash hcontrol .nil, Text.unpaired_ofChars [_],
      List.forall_mem_singleton.2 hvisible⟩
  have blank : ∀ c ∈ ['\n', ' '], shared.blank c := by simp [shared]
  have hvalue : Spells shared (.data fullNumber.value) ([' '] ++ fullNumber.text) :=
    .leading (.word (.number fullNumber_wellFormed rfl)) fun c hc =>
      blank c (by simp at hc; simp [hc])
  have hnull : Spells shared (.data (.array [.null])) ('[' :: ("null".toList ++ [']'])) :=
    .array (.lastItem (.word SharedWord.null))
  have hfirst : Spells shared (.member ("a", fullNumber.value))
      ('"' :: (['a'] ++ '"' :: ([' '] ++ ':' :: ([' '] ++ fullNumber.text)))) :=
    .member (name (by decide) (by decide) (by decide) (by decide))
      (fun c hc => blank c (by simp at hc; simp [hc])) ⟨by simp, by decide⟩ hvalue
  have hsecond : Spells shared (.member ("b", .array [.null]))
      ('"' :: (['b'] ++ '"' :: ([] ++ ':' :: '[' :: ("null".toList ++ [']'])))) :=
    .member (name (by decide) (by decide) (by decide) (by decide))
      (List.forall_mem_nil _) ⟨List.forall_mem_nil _, by decide⟩ hnull
  exact .object (.moreMembers hfirst (.leading (.lastMember hsecond) blank))

/-- Files of one text, under two names. -/
def twoFiles : Files where
  root := .directory
    [(Text.fileBytes "a.json", .file twoLinesText.toUTF8),
     (Text.fileBytes "a.yaml", .file twoLinesText.toUTF8)]
  working := []

theorem twoFiles_readText : ∀ p ∈ [.ofText "a.json", .ofText "a.yaml"],
    twoFiles.readText p = .ok twoLinesText.toList := by
  have htext : ∀ p ∈ [.ofText "a.json", .ofText "a.yaml"],
      (twoFiles.readText p).toOption = some twoLinesText.toList := by decide +kernel
  intro p hp
  have hp := htext p hp
  cases h : twoFiles.readText p with
  | error cause =>
    rw [h] at hp
    cases hp
  | ok cs =>
    rw [h] at hp
    exact congrArg _ (Option.some.inj hp)

theorem reads_alike_twoLines :
    (twoLines.levels ≤ Draft.nestingLimit ∧ Spells shared (.data twoLines) twoLinesText.toList) ∧
      Json.read twoLinesText.toList = .ok twoLines ∧
      Yaml.read twoLinesText.toList = .ok twoLines.toValue ∧
      twoFiles.readValue (.ofText "a.json") = .ok twoLines.toValue ∧
      twoFiles.readValue (.ofText "a.yaml") = .ok twoLines.toValue := by
  have hlevels : twoLines.levels ≤ Draft.nestingLimit := by decide
  obtain ⟨hjson, hyaml, hfiles⟩ := reads_alike twoLines_spelled hlevels
  exact ⟨⟨hlevels, twoLines_spelled⟩, hjson, hyaml, (hfiles _ _ (twoFiles_readText _ (by simp))).1,
    (hfiles _ _ (twoFiles_readText _ (by simp))).1⟩

/-- A word of JSON that has the tag of a text is one in YAML. -/
theorem word_reads_as_text {w : List Char} {j : Json} (h : Word w j)
    (htext : (Tag.ofSpelling w).read (w.map .char) = .ok (.str (.ofChars w))) :
    Json.read w = .ok j ∧ Yaml.read w = .ok (.str (.ofChars w)) := by
  have hword := isWord_of_json h
  refine ⟨Json.read_ok_iff.2 ⟨.word h, h.depth ▸ Nat.zero_le _⟩, ?_⟩
  have hspells : Spells flow (.data (.str (.ofChars w))) (unifyBreaks w) := by
    rw [unifyBreaks_eq, unifyFrom_inline (isInline_word hword)]
    exact .word ⟨hword, htext⟩
  exact hspells.read (List.all_eq_true.2 fun c hc => isAllowed_of_wordChar (hword.chars c hc))
    (Nat.zero_le _)

/-- **A word of JSON that is not shared is a text in YAML**: a number whose exponent has no sign or
no fraction in front of it, and the words for infinities and for no number. -/
theorem unshared_reads_as_text {w : List Char} {j : Json} (h : Word w j)
    (hshared : ¬ SharedWord w j) :
    Json.read w = .ok j ∧ Yaml.read w = .ok (.str (.ofChars w)) := by
  refine word_reads_as_text h ?_
  cases h with
  | named h =>
    simp only [Json.Reader.words, List.mem_cons, List.not_mem_nil, or_false, Prod.mk.injEq] at h
    rcases h with ⟨rfl, rfl⟩ | ⟨rfl, rfl⟩ | ⟨rfl, rfl⟩ | ⟨rfl, -⟩ | ⟨rfl, -⟩ | ⟨rfl, -⟩
    · exact absurd .null hshared
    · exact absurd .true hshared
    · exact absurd .false hshared
    · rfl
    · rfl
    · rfl
  | @number x h =>
    refine Written.read_text_of_not_plain h ?_
    by_contra hplain
    exact hshared (.number h (Bool.eq_true_of_not_eq_false hplain))

/-- An exponent without a sign, as JSON may write it. -/
def unsigned : Written := ⟨false, [1], [], some ⟨false, none, [5]⟩⟩

/-- **JSON is no subset**: an exponent without a sign makes a text of a number, and a tab is no
blank. -/
theorem json_is_no_subset :
    (Json.read ['1', 'e', '5'] = .ok (.float (.ofDecimal false [1] 5)) ∧
      Yaml.read ['1', 'e', '5'] = .ok (.str (.ofChars ['1', 'e', '5']))) ∧
    (Json.read ['\t', '1'] = .ok (.int 1) ∧ Yaml.read ['\t', '1'] = .error .malformed) := by
  have hunsigned : unsigned.WellFormed :=
    { whole := ⟨by decide, by decide, by decide⟩
      part := by decide
      exponent := by
        intro e he
        obtain rfl := Option.some.inj he
        exact ⟨by decide, by decide⟩
      short := by decide }
  exact ⟨word_reads_as_text (.number hunsigned) rfl, rfl, rfl⟩

end LintBundle.Yaml
