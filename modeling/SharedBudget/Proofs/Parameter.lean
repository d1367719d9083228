/-
# Parameters read back

A parameter that is written down and read again keeps its type, and its value
unless it is a floating-point number: then the value becomes what a document makes
of it (`Json.recover`), and if that is nothing the parameter is refused
(`Parameter.readsAs_json`).
-/

import SharedBudget.Parameter.Codec
import SharedBudget.Proofs.Json.Records

namespace SharedBudget

open Json

/-! ## Types -/

theorem DataType.choose_name (t : DataType) : choose DataType.choices t.name = .ok t := by
  cases t <;> rfl

/-- **A type is read by its name.** -/
theorem DataType.reads_name (t : DataType) (depth : ℕ) :
    Reads (DataType.read depth) (Writer.text t.name) t := by
  have haccept : acceptChoice DataType.choices (.text (String.ofList t.name.toList)) = .ok t := by
    rw [String.ofList_toList]
    exact t.choose_name
  have hquoted := (reads_scalar_quoted t.name.toList).accepting _ haccept
  intro rest hrest
  have h := hquoted rest hrest
  rw [Writer.text]
  rw [encode_quoted] at h ⊢
  exact h

namespace Parameter

variable {p : Parameter}

/-! ## Values -/

/-- The parameter as it comes back from a document, if it does. -/
def reread : Parameter → Option Parameter
  | .f32 x => .f32 <$> recover x
  | .f64 x => .f64 <$> recover x
  | p => some p

/-- **A value is read back by its type.** -/
theorem readsAs_value (p : Parameter) :
    ReadsAs (accepting (accept p.dataType)) p.valueJson p.reread := by
  cases p with
  | f32 x =>
    have h := (readsAs_float Format.isNarrow_single "f32" x).map Parameter.f32
    rwa [← accepting_map] at h
  | f64 x =>
    have h := (readsAs_float Format.isNarrow_double "f64" x).map Parameter.f64
    rwa [← accepting_map] at h
  | i32 z =>
    have hlow := z.le_toInt
    have hhigh := z.toInt_lt
    have haccept : accept .i32 (.integer z.toInt) = .ok (.i32 z) := by
      rw [accept, acceptInteger_eq_ok hlow (by omega)]
      exact congrArg (Except.ok ∘ Parameter.i32) z.ofInt_toInt
    exact (reads_scalar_integer (by omega) (by omega)).accepting _ haccept
  | i64 z =>
    have hlow := z.le_toInt
    have hhigh := z.toInt_lt
    have haccept : accept .i64 (.integer z.toInt) = .ok (.i64 z) := by
      rw [accept, acceptInteger_eq_ok hlow (by omega)]
      exact congrArg (Except.ok ∘ Parameter.i64) z.ofInt_toInt
    exact (reads_scalar_integer (by omega) (by omega)).accepting _ haccept
  | u64 n =>
    have hhigh := n.toNat_lt
    have haccept : accept .u64 (.integer n.toNat) = .ok (.u64 n) := by
      rw [accept, acceptInteger_eq_ok (by omega) (by omega)]
      exact congrArg (Except.ok ∘ Parameter.u64) UInt64.ofNat_toNat
    exact (reads_scalar_natural hhigh).accepting _ haccept
  | string t =>
    have haccept : accept .string (.text (String.ofList t.toList)) = .ok (.string t) := by
      rw [String.ofList_toList]
      rfl
    exact (reads_scalar_quoted t.toList).accepting _ haccept

/-- A parameter whose value is kept: an integer, a string, a single that is a whole number with
no more bits than its significand, or a double whose literal is short. -/
def IsPlain : Parameter → Prop
  | .f32 x => ∃ z : ℤ, x.IsWhole z ∧ z.natAbs < 2 ^ Format.single.precision
  | .f64 x => x.isFinite ∧ (literal x).IsShort
  | _ => True

/-- **A plain parameter comes back as itself.** -/
theorem reread_of_isPlain (h : p.IsPlain) : p.reread = some p := by
  cases p with
  | f32 x =>
    obtain ⟨z, hwhole, hz⟩ := h
    have hpositional (m : ℤ) (h : 0 ≤ m) (h' : m < (13 : ℕ)) :
        (Decimal.Layout.json .single).positional m := by
      change (decide (-6 ≤ m) && decide (m ≤ 12)) = true
      rw [decide_eq_true (by omega), decide_eq_true (by omega)]
      rfl
    have hback : recover x = some x := recover_of_isWhole Format.isNarrow_single hwhole hz
      (by decide) (hz.trans (by decide)) hpositional
      ((Nat.mul_lt_mul_of_pos_left hz (by decide)).trans (by decide))
    exact congrArg (Option.map Parameter.f32) hback
  | f64 x =>
    exact congrArg (Option.map Parameter.f64) ((recover_double x).trans (reread_of_isShort h.1 h.2))
  | i32 z => rfl
  | i64 z => rfl
  | u64 n => rfl
  | string t => rfl

/-! ## Members -/

section Members

variable {fuel depth : ℕ} {s rest : Bytes} {value : List Char}

/-- A member that belongs to a parameter is found, up to its value. -/
theorem nextMember_member (m : Member) {first : Bool} {t : Bytes}
    (ht : anotherMember first t = .ok (true, Utf8.encode (Writer.member m.name value) ++ s)) :
    nextMember (fuel + 1) first t = .ok (some m, colon :: (Utf8.encode value ++ s)) := by
  rw [nextMember, bind_reader ht, if_pos rfl, bind_reader (memberName_member ..)]
  cases m <;> rfl

/-- What follows the type: the value, and then the end. -/
theorem gives_readMembers (p : Parameter) (rest : Bytes) :
    Gives (readMembers (fuel + 1) depth (Utf8.encode (Writer.member Member.dataType.name
        (Writer.text p.dataType.name)) ++ (Utf8.encode (others (memberTexts
          [(Member.value.name, p.valueJson)])) ++ closeObject :: rest)))
      (closeObject :: rest) (p.reread.map Except.ok) := by
  have hclose := closes_closeObject rest
  have hvalue := p.readsAs_value (closeObject :: rest) hclose
  have hmore : Utf8.encode (others (memberTexts [(Member.value.name, p.valueJson)])) ++
      closeObject :: rest =
        comma :: (Utf8.encode (Writer.member Member.value.name p.valueJson) ++
          closeObject :: rest) := encode_others_cons ..
  have hcloses := closes_others (memberTexts [(Member.value.name, p.valueJson)]) hclose
  rw [readMembers, bind_reader (nextMember_member .dataType (anotherMember_first ..))]
  change Gives (typeFirst (fuel + 1) depth _) _ _
  rw [typeFirst, bind_reader (separator_colon _), bind_reader (p.dataType.reads_name depth _ hcloses),
    hmore, bind_reader (nextMember_member .value (anotherMember_next ..))]
  change Gives ((separator >>= fun _ => accepting (accept p.dataType) >>= lastMembers (fuel + 1)) _)
    _ _
  rw [bind_reader (separator_colon _)]
  rw [Option.map_eq_bind]
  exact hvalue.bind fun q _ => rfl

end Members

/-- **A parameter is read back by its type.** -/
theorem readsAs_json (p : Parameter) (depth : ℕ) :
    ReadsAs (read (depth + 1)) p.json p.reread := by
  intro rest _
  have hread (s : Bytes) : read (depth + 1) (openObject :: s) =
      closingObject (readMembers (s.length + 1) depth) s := rfl
  rw [json, encode_object_cons, hread, ← bind_toOption_ok Cause p.reread]
  exact (gives_readMembers p rest).closingObject

theorem begins_json (p : Parameter) : Begins p.json := begins_object _

end Parameter
end SharedBudget
