import LintBundle.Proofs.Magnitude
import LintBundle.Value.Basic

/-!
# Proofs/Keys — keys that are one key have one form

Numbers and truth values count by the rational they denote, moments by their instant, and sequences
item by item; `nan`, functions and collections have no form, so they are no key twice.  `same` is
equality of forms (`same_iff`), hence symmetric and transitive.
-/

namespace LintBundle

/-- What a number counts as. -/
inductive NumberForm
  | finite (n : ℚ)
  | infinite (negative : Bool)

/-- What a key counts as. -/
inductive KeyForm
  | null
  | number (n : NumberForm)
  | str (s : Text)
  | tuple (items : List KeyForm)
  | bytes (data : List UInt8)
  | date (day : Date)
  | moment (zoned : Bool) (instant : ℤ)

/-- Two optional things that are both there, and one thing. -/
def Agree {α : Type} (a b : Option α) : Prop := ∃ k, a = some k ∧ b = some k

namespace Agree

variable {α β : Type}

@[simp] theorem some_some {a b : α} : Agree (some a) (some b) ↔ a = b := by
  constructor
  · rintro ⟨k, ha, hb⟩
    exact (Option.some.inj ha).trans (Option.some.inj hb).symm
  · rintro rfl
    exact ⟨a, rfl, rfl⟩

@[simp] theorem none_left {b : Option α} : ¬ Agree none b := by simp [Agree]

@[simp] theorem none_right {a : Option α} : ¬ Agree a none := by simp [Agree]

theorem comm {a b : Option α} : Agree a b ↔ Agree b a :=
  ⟨fun ⟨k, ha, hb⟩ => ⟨k, hb, ha⟩, fun ⟨k, ha, hb⟩ => ⟨k, hb, ha⟩⟩

theorem map_iff {a b : Option α} {g : α → β} (hg : Function.Injective g) :
    Agree (a.map g) (b.map g) ↔ Agree a b := by
  cases a <;> cases b <;> simp [hg.eq_iff]

end Agree

/-! ## Numbers -/

/-- What a number counts as, if it is one. -/
def Binary64.form : Binary64 → Option NumberForm
  | .nan => none
  | .infinite negative => some (.infinite negative)
  | .finite negative m q _ => some (.finite (Binary64.rational negative m q))

/-- Whole numbers and finite numbers are compared as rationals. -/
theorem Binary64.equalsInt_iff (x : Binary64) (n : ℤ) :
    x.equalsInt n = true ↔ Agree (some (.finite n)) x.form := by
  cases x with
  | nan => simp [Binary64.equalsInt, form]
  | infinite negative => simp [Binary64.equalsInt, form]
  | finite negative m q h =>
    rw [Binary64.equalsInt_finite, form, Agree.some_some, NumberForm.finite.injEq]
    exact eq_comm

theorem Binary64.same_iff (x y : Binary64) : x.same y = true ↔ Agree x.form y.form := by
  cases x with
  | nan => simp [Binary64.same, form]
  | infinite a => cases y <;> simp [Binary64.same, Binary64.isZero, form]
  | finite a m q h =>
    cases y with
    | nan => simp [Binary64.same, form]
    | infinite b => simp [Binary64.same, Binary64.isZero, form]
    | finite b m' q' h' => simp [form, Binary64.same_finite]

theorem Moment.same_iff (m n : Moment) :
    m.same n = true ↔ (m.offset.isSome = n.offset.isSome
      ∧ m.clock - 1000000 * m.offset.getD 0 = n.clock - 1000000 * n.offset.getD 0) := by
  unfold Moment.same
  cases m.offset <;> cases n.offset <;> simp

/-! ## Keys -/

namespace Value

mutual

/-- What a key counts as, if it can be a key twice. -/
def keyForm : Value → Option KeyForm
  | null => some .null
  | bool b => some (.number (.finite ((if b then 1 else 0 : ℤ) : ℚ)))
  | int n => some (.number (.finite n))
  | float x => x.form.map .number
  | str s => some (.str s)
  | tuple items => (keyForms items).map .tuple
  | bytes data => some (.bytes data)
  | date day => some (.date day)
  | moment m => some (.moment m.offset.isSome (m.clock - 1000000 * m.offset.getD 0))
  | _ => none

def keyForms : List Value → Option (List KeyForm)
  | [] => some []
  | v :: rest => (keyForm v).bind fun k => (keyForms rest).map (k :: ·)

end

@[simp] theorem agree_number {a b : Option NumberForm} :
    Agree (a.map KeyForm.number) (b.map KeyForm.number) ↔ Agree a b :=
  Agree.map_iff fun _ _ h => KeyForm.number.inj h

theorem agree_cons {a b : Option KeyForm} {as bs : Option (List KeyForm)} :
    Agree (a.bind fun k => as.map (k :: ·)) (b.bind fun k => bs.map (k :: ·))
      ↔ Agree a b ∧ Agree as bs := by
  cases a <;> cases b <;> cases as <;> cases bs <;> simp

/-- The keys that are whole numbers, and those that are numbers. -/
theorem same_number_iff {v w : Value} {a b : Option NumberForm}
    (hv : keyForm v = a.map .number) (hw : keyForm w = b.map .number)
    (h : v.same w = true ↔ Agree a b) : v.same w = true ↔ Agree (keyForm v) (keyForm w) := by
  rw [hv, hw, agree_number, h]

mutual

/-- **Two keys are one key exactly when they have the same form.** -/
theorem same_iff : ∀ v w : Value, v.same w = true ↔ Agree (keyForm v) (keyForm w)
  | .tuple xs, w => by
    cases w with
    | tuple ys =>
      rw [same, keyForm, keyForm, Agree.map_iff fun _ _ h => KeyForm.tuple.inj h]
      exact sameItems_iff xs ys
    | _ => simp [same, keyForm, Agree]
  | .float x, w => by
    cases w with
    | bool b =>
      refine same_number_iff (a := x.form) (b := some _) rfl rfl ?_
      rw [same, x.equalsInt_iff, Agree.comm]
    | int n =>
      refine same_number_iff (a := x.form) (b := some _) rfl rfl ?_
      rw [same, x.equalsInt_iff, Agree.comm]
    | float y => exact same_number_iff rfl rfl (by rw [same, x.same_iff])
    | _ => simp [same, keyForm, Agree]
  | .int n, w => by
    cases w with
    | float y =>
      exact same_number_iff (a := some (.finite n)) rfl rfl (by rw [same, y.equalsInt_iff])
    | int k => simp [same, keyForm]
    | bool b => cases b <;> simp [same, keyForm]
    | _ => simp [same, keyForm, Agree]
  | .bool b, w => by
    cases w with
    | float y =>
      refine same_number_iff (a := some _) (b := y.form) rfl rfl ?_
      rw [same, y.equalsInt_iff]
    | int n => cases b <;> simp [same, keyForm, eq_comm]
    | bool c => cases b <;> cases c <;> simp [same, keyForm]
    | _ => simp [same, keyForm, Agree]
  | .moment m, w => by cases w <;> simp [same, keyForm, m.same_iff] <;> simp [Agree]
  | .null, w => by cases w <;> simp [same, keyForm] <;> simp [Agree]
  | .str s, w => by cases w <;> simp [same, keyForm] <;> simp [Agree]
  | .bytes d, w => by cases w <;> simp [same, keyForm] <;> simp [Agree]
  | .date d, w => by cases w <;> simp [same, keyForm] <;> simp [Agree]
  | .list _, w => by cases w <;> simp [same, keyForm]
  | .set _, w => by cases w <;> simp [same, keyForm]
  | .map _, w => by cases w <;> simp [same, keyForm]
  | .function _, w => by cases w <;> simp [same, keyForm]
  | .object _, w => by cases w <;> simp [same, keyForm]
  | .document _ _, w => by cases w <;> simp [same, keyForm]
  | .cyclic _ _, w => by cases w <;> simp [same, keyForm]
  | .back _, w => by cases w <;> simp [same, keyForm]

theorem sameItems_iff : ∀ xs ys : List Value,
    sameItems xs ys = true ↔ Agree (keyForms xs) (keyForms ys)
  | [], [] => by simp [sameItems, keyForms]
  | [], y :: ys => by
    cases hy : keyForm y <;> cases hys : keyForms ys <;> simp [sameItems, keyForms, hy, hys]
  | x :: xs, [] => by
    cases hx : keyForm x <;> cases hxs : keyForms xs <;> simp [sameItems, keyForms, hx, hxs]
  | x :: xs, y :: ys => by
    rw [sameItems, Bool.and_eq_true, same_iff x y, sameItems_iff xs ys, keyForms, keyForms,
      agree_cons]

end

/-- **Being one key is symmetric.** -/
theorem same_comm (v w : Value) : v.same w = w.same v := by
  rw [Bool.eq_iff_iff, same_iff, same_iff, Agree.comm]

/-- **…and transitive**: what is one key with one of two same keys is so with the other. -/
theorem same_congr {u v : Value} (h : u.same v = true) (w : Value) : u.same w = v.same w := by
  obtain ⟨k, hu, hv⟩ := (same_iff u v).1 h
  rw [Bool.eq_iff_iff, same_iff, same_iff, hu, hv]

/-- A key that is one with a text is that text. -/
@[simp] theorem same_str {v : Value} {s : Text} : v.same (.str s) = true ↔ v = .str s := by
  cases v <;> simp [same]

end Value

end LintBundle
