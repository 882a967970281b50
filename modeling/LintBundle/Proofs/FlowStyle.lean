import LintBundle.Json.Basic

/-!
# Proofs/FlowStyle — the grammar of flow style, and its dialects

    data ::= word | "raw" | [ items ] | { members }        member ::= "raw" : data

JSON and the flow style of YAML are one grammar that differs in its leaves: in the characters that
count as blanks, in the words and what they stand for, in what may stand between quotes, and in how
far a name may be from its colon.  A dialect says what the leaves are (`Dialect`), and a text spells
data in it (`Spells`).  What is spelled in one dialect is spelled in every wider one
(`Spells.mono`). -/

namespace LintBundle.Yaml

/-- **A dialect of flow style**, by its leaves. -/
structure Dialect where
  /-- The characters that may stand around every part. -/
  blank : Char → Prop
  /-- The words, and the data they stand for. -/
  word : List Char → Json → Prop
  /-- What stands between quotes, and the text it stands for. -/
  quotes : List Char → List Point → Prop
  /-- What a name is between its quotes, and the gap between it and its colon. -/
  name : List Char → List Char → Prop

/-- What a stretch of a text stands for. -/
inductive Form
  | data (j : Json)
  | items (js : List Json)
  | member (m : Text × Json)
  | members (ms : List (Text × Json))

/-- **A text that spells data in a dialect.** -/
inductive Spells (D : Dialect) : Form → List Char → Prop
  | word {w : List Char} {j : Json} (h : D.word w j) : Spells D (.data j) w
  | quoted {raw : List Char} {text : List Point} (h : D.quotes raw text) :
      Spells D (.data (.str (.ofList text))) ('"' :: (raw ++ ['"']))
  | padded {form : Form} {b cs b' : List Char} (hb : ∀ c ∈ b, D.blank c)
      (hb' : ∀ c ∈ b', D.blank c) (h : Spells D form cs) : Spells D form (b ++ (cs ++ b'))
  | noItems {b : List Char} (hb : ∀ c ∈ b, D.blank c) :
      Spells D (.data (.array [])) ('[' :: (b ++ [']']))
  | array {js : List Json} {cs : List Char} (h : Spells D (.items js) cs) :
      Spells D (.data (.array js)) ('[' :: (cs ++ [']']))
  | lastItem {j : Json} {cs : List Char} (h : Spells D (.data j) cs) : Spells D (.items [j]) cs
  | item {j : Json} {js : List Json} {cs cs' : List Char} (h : Spells D (.data j) cs)
      (h' : Spells D (.items js) cs') : Spells D (.items (j :: js)) (cs ++ ',' :: cs')
  | noMembers {b : List Char} (hb : ∀ c ∈ b, D.blank c) :
      Spells D (.data (.object [])) ('\x7b' :: (b ++ ['\x7d']))
  | object {ms : List (Text × Json)} {cs : List Char} (h : Spells D (.members ms) cs) :
      Spells D (.data (.object ms)) ('\x7b' :: (cs ++ ['\x7d']))
  | member {raw s cs : List Char} {name : List Point} {j : Json} (hname : D.quotes raw name)
      (hs : ∀ c ∈ s, D.blank c) (hgap : D.name raw s) (h : Spells D (.data j) cs) :
      Spells D (.member (.ofList name, j)) ('"' :: (raw ++ '"' :: (s ++ ':' :: cs)))
  | lastMember {m : Text × Json} {cs : List Char} (h : Spells D (.member m) cs) :
      Spells D (.members [m]) cs
  | moreMembers {m : Text × Json} {ms : List (Text × Json)} {cs cs' : List Char}
      (h : Spells D (.member m) cs) (h' : Spells D (.members ms) cs') :
      Spells D (.members (m :: ms)) (cs ++ ',' :: cs')

/-- Every leaf of one dialect is a leaf of another. -/
structure Dialect.Within (D D' : Dialect) : Prop where
  blank : ∀ {c}, D.blank c → D'.blank c
  word : ∀ {w j}, D.word w j → D'.word w j
  quotes : ∀ {raw text}, D.quotes raw text → D'.quotes raw text
  name : ∀ {raw s}, D.name raw s → D'.name raw s

variable {D D' : Dialect} {form : Form} {cs : List Char}

/-- **A wider dialect spells more.** -/
theorem Spells.mono (h : Spells D form cs) (hwithin : D.Within D') : Spells D' form cs := by
  have blanks : ∀ {b : List Char}, (∀ c ∈ b, D.blank c) → ∀ c ∈ b, D'.blank c :=
    fun hb c hc => hwithin.blank (hb c hc)
  induction h with
  | word h => exact .word (hwithin.word h)
  | quoted h => exact .quoted (hwithin.quotes h)
  | padded hb hb' _ ih => exact .padded (blanks hb) (blanks hb') ih
  | noItems hb => exact .noItems (blanks hb)
  | array _ ih => exact .array ih
  | lastItem _ ih => exact .lastItem ih
  | item _ _ ih ih' => exact .item ih ih'
  | noMembers hb => exact .noMembers (blanks hb)
  | object _ ih => exact .object ih
  | member hname hs hgap _ ih =>
    exact .member (hwithin.quotes hname) (blanks hs) (hwithin.name hgap) ih
  | lastMember _ ih => exact .lastMember ih
  | moreMembers _ _ ih ih' => exact .moreMembers ih ih'

/-- Blanks behind a text belong to it. -/
theorem Spells.trailing {b : List Char} (h : Spells D form cs) (hb : ∀ c ∈ b, D.blank c) :
    Spells D form (cs ++ b) := .padded (List.forall_mem_nil _) hb h

/-- Blanks in front of a text belong to it. -/
theorem Spells.leading {b : List Char} (h : Spells D form cs) (hb : ∀ c ∈ b, D.blank c) :
    Spells D form (b ++ cs) := by
  have hpadded : Spells D form (b ++ (cs ++ [])) := .padded hb (List.forall_mem_nil _) h
  rwa [List.append_nil] at hpadded

/-- What holds of the marks and of every character of a leaf holds of every character. -/
theorem Spells.forall_mem {p : Char → Prop} (h : Spells D form cs)
    (marks : ∀ c ∈ ['"', ',', ':', '[', ']', '\x7b', '\x7d'], p c)
    (blank : ∀ {c}, D.blank c → p c) (word : ∀ {w j}, D.word w j → ∀ c ∈ w, p c)
    (quotes : ∀ {raw text}, D.quotes raw text → ∀ c ∈ raw, p c) : ∀ c ∈ cs, p c := by
  simp only [List.forall_mem_cons] at marks
  obtain ⟨hquote, hcomma, hcolon, hopen, hclose, hopen', hclose', -⟩ := marks
  have blanks : ∀ {b : List Char}, (∀ c ∈ b, D.blank c) → ∀ c ∈ b, p c :=
    fun hb c hc => blank (hb c hc)
  have enclosed : ∀ {cs : List Char} {first last : Char}, p first → (∀ c ∈ cs, p c) → p last →
      ∀ c ∈ first :: (cs ++ [last]), p c := fun hfirst hcs hlast => List.forall_mem_cons.2
    ⟨hfirst, List.forall_mem_append.2 ⟨hcs, List.forall_mem_singleton.2 hlast⟩⟩
  have joined : ∀ {cs cs' : List Char} {mark : Char}, (∀ c ∈ cs, p c) → p mark → (∀ c ∈ cs', p c) →
      ∀ c ∈ cs ++ mark :: cs', p c := fun hcs hmark hcs' =>
    List.forall_mem_append.2 ⟨hcs, List.forall_mem_cons.2 ⟨hmark, hcs'⟩⟩
  induction h with
  | word h => exact word h
  | quoted h => exact enclosed hquote (quotes h) hquote
  | padded hb hb' _ ih =>
    exact List.forall_mem_append.2 ⟨blanks hb, List.forall_mem_append.2 ⟨ih, blanks hb'⟩⟩
  | noItems hb => exact enclosed hopen (blanks hb) hclose
  | array _ ih => exact enclosed hopen ih hclose
  | lastItem _ ih => exact ih
  | item _ _ ih ih' => exact joined ih hcomma ih'
  | noMembers hb => exact enclosed hopen' (blanks hb) hclose'
  | object _ ih => exact enclosed hopen' ih hclose'
  | member hname hs _ _ ih =>
    exact List.forall_mem_cons.2
      ⟨hquote, joined (quotes hname) hquote (joined (blanks hs) hcolon ih)⟩
  | lastMember _ ih => exact ih
  | moreMembers _ _ ih ih' => exact joined ih hcomma ih'

end LintBundle.Yaml
