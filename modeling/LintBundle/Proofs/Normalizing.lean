import LintBundle.Severity
import LintBundle.Proofs.Images

/-!
# Proofs/Normalizing — what is left of a value when its severity is normalized

    value ──normalize──▸ value'
      │ofValue             │ofValue
      ▼                    ▼
    severity ─canonical─▸ severity'

The severity of a normalized value is the canonical form of its severity (`ofValue_normalize`).  A
canonical severity is off exactly where the severity is, and its own canonical form; so normalizing
turns no rule on or off, and does nothing the second time.  What follows the severity in a sequence
is kept as it is, and so is whether the value has a JSON form.
-/

namespace LintBundle.Severity

/-! ## Canonical severities -/

theorem canonical_of_off {v : Value} (h : isOff v = true) : canonical v = disabled := if_pos h

theorem canonical_of_on {v : Value} (h : isOff v = false) : canonical v = v :=
  if_neg (by simp [h])

@[simp] theorem isOff_canonical (v : Value) : isOff (canonical v) = isOff v := by
  cases h : isOff v with
  | true =>
    rw [canonical_of_off h]
    rfl
  | false => rw [canonical_of_on h, h]

@[simp] theorem canonical_canonical (v : Value) : canonical (canonical v) = canonical v := by
  cases h : isOff v with
  | true => rw [canonical_of_off ((isOff_canonical v).trans h), canonical_of_off h]
  | false => rw [canonical_of_on h, canonical_of_on h]

/-- The canonical form of what is no sequence is none either. -/
theorem sequence?_canonical {v : Value} (h : v.sequence? = none) :
    (canonical v).sequence? = none := by
  rw [canonical]
  split
  · rfl
  · exact h

/-! ## Normalized values -/

/-- A value that is no sequence is its own severity. -/
theorem ofValue_of_single {v : Value} (h : v.sequence? = none) : ofValue v = v := by
  rw [ofValue, h]

/-- A sequence has its severity in front. -/
theorem ofValue_of_sequence {v : Value} {items : List Value} (h : v.sequence? = some items) :
    ofValue v = items.headD disabled := by
  rw [ofValue, h]

theorem normalize_of_single {v : Value} (h : v.sequence? = none) : normalize v = canonical v := by
  rw [normalize, h]

theorem normalize_of_nil {v : Value} (h : v.sequence? = some []) : normalize v = disabled := by
  rw [normalize, h]

/-- **Behind the severity a sequence stays as it is.** -/
theorem normalize_of_cons {v head : Value} {rest : List Value}
    (h : v.sequence? = some (head :: rest)) : normalize v = .list (canonical head :: rest) := by
  rw [normalize, h]

/-- **The severity of a normalized value is the canonical form of its severity.** -/
@[simp] theorem ofValue_normalize (v : Value) : ofValue (normalize v) = canonical (ofValue v) := by
  cases hs : v.sequence? with
  | none =>
    rw [normalize_of_single hs, ofValue_of_single (sequence?_canonical hs), ofValue_of_single hs]
  | some items =>
    rw [ofValue_of_sequence hs]
    cases items with
    | nil => rw [normalize_of_nil hs]; rfl
    | cons head rest => rw [normalize_of_cons hs]; rfl

/-- **Normalizing turns no rule on or off.** -/
@[simp] theorem isDisabled_normalize (v : Value) : isDisabled (normalize v) = isDisabled v := by
  rw [isDisabled, ofValue_normalize, isOff_canonical, isDisabled]

/-- **Normalizing twice is normalizing once.** -/
@[simp] theorem normalize_normalize (v : Value) : normalize (normalize v) = normalize v := by
  cases hs : v.sequence? with
  | none =>
    rw [normalize_of_single hs, normalize_of_single (sequence?_canonical hs), canonical_canonical]
  | some items =>
    cases items with
    | nil => rw [normalize_of_nil hs]; rfl
    | cons head rest =>
      rw [normalize_of_cons hs,
        normalize_of_cons (show _ = some (canonical head :: rest) from rfl), canonical_canonical]

/-! ## JSON forms -/

/-- A severity that is off has a JSON form as a number. -/
theorem shown_canonical {v : Value} (h : ∃ j, Json.ofValue v = .ok j) :
    ∃ j, Json.ofValue (canonical v) = .ok j := by
  rw [canonical]
  split
  · exact ⟨.int 0, rfl⟩
  · exact h

/-- **Normalizing keeps that a value has a JSON form.** -/
theorem shown_normalize {v : Value} (h : ∃ j, Json.ofValue v = .ok j) :
    ∃ j, Json.ofValue (normalize v) = .ok j := by
  cases hs : v.sequence? with
  | none =>
    rw [normalize_of_single hs]
    exact shown_canonical h
  | some items =>
    cases items with
    | nil =>
      rw [normalize_of_nil hs]
      exact ⟨.int 0, rfl⟩
    | cons head rest =>
      obtain ⟨j, hj⟩ := h
      obtain ⟨js, hjs⟩ := Json.imageItems_of_sequence hj hs
      obtain ⟨jhead, jrest, hhead, hrest, rfl⟩ := Json.imageItems_cons_ok hjs
      obtain ⟨jhead', hhead'⟩ := shown_canonical ⟨jhead, hhead⟩
      refine ⟨.array (jhead' :: jrest), ?_⟩
      rw [normalize_of_cons hs, Json.ofValue, Json.image, Json.imageItems,
        show Json.image [] _ = .ok jhead' from hhead', hrest]
      rfl

/-! ## Normal forms -/

/-- **Normalizing and turning off agree**, whatever the value is.  A normalized value is off exactly
if the value is, and is its own normal form; its severity is the number zero if the value is off and
that of the value if not; and of a sequence all items but the first are kept, in their order. -/
theorem normalize_agrees (v : Value) :
    isDisabled (normalize v) = isDisabled v ∧
    normalize (normalize v) = normalize v ∧
    ofValue (normalize v) = (if isDisabled v then .int 0 else ofValue v) ∧
    ∀ head rest, v.sequence? = some (head :: rest) →
      ∃ severity, normalize v = .list (severity :: rest) :=
  ⟨isDisabled_normalize v, normalize_normalize v, ofValue_normalize v,
    fun head _ h => ⟨canonical head, normalize_of_cons h⟩⟩

/-- A tuple that is off by the negative zero, with options that are switches themselves. -/
theorem normalize_agrees_options :
    ∃ severity,
      normalize (.tuple [.float (.zero true), .list [.str "off"], .float .nan, .bool false])
      = .list [severity, .list [.str "off"], .float .nan, .bool false] :=
  (normalize_agrees _).2.2.2 _ _ rfl

end LintBundle.Severity
