import Mathlib.Data.List.Basic
import ModalEditor.Program

namespace ModalEditor.Program

variable {t : Text} {b bs : List UInt8}

def encode (t : Text) : List UInt8 :=
  t.flatMap String.utf8EncodeChar

theorem encode_append (s t : Text) : encode (s ++ t) = encode s ++ encode t :=
  List.flatMap_append

theorem decode?_eq_some_iff : decode? b = some t ↔ b = encode t := by
  constructor
  · intro h
    obtain ⟨cs, hcs, rfl⟩ := Option.map_eq_some_iff.1 h
    obtain ⟨m, hm⟩ := ByteArray.isSome_utf8Decode?_iff.1 (Option.isSome_of_eq_some hcs)
    rw [hm, List.utf8Decode?_utf8Encode, Option.some.injEq] at hcs
    rw [← hcs, List.toList_toArray]
    exact List.toByteArray_inj.1 hm
  · rintro rfl
    have hdecode : (encode t).toByteArray.utf8Decode? = some t.toArray :=
      List.utf8Decode?_utf8Encode
    rw [decode?, hdecode, Option.map_some, List.toList_toArray]

@[simp] theorem decode?_encode (t : Text) : decode? (encode t) = some t :=
  decode?_eq_some_iff.2 rfl

theorem decode?_eq_none_iff : decode? b = none ↔ ∀ t, b ≠ encode t := by
  simp only [Option.eq_none_iff_forall_ne_some, ne_eq, decode?_eq_some_iff]

theorem ofNat_continuation_ne (n : Nat) : UInt8.ofNat (n % 64 + 128) ≠ carriageReturn := by
  intro h
  have hnat := congrArg UInt8.toNat h
  rw [UInt8.toNat_ofNat', show carriageReturn.toNat = 13 from rfl] at hnat
  omega

theorem getLast?_utf8EncodeChar {c : Char} :
    (String.utf8EncodeChar c).getLast? = some carriageReturn ↔ c = '\r' := by
  constructor
  · rw [String.utf8EncodeChar.eq_1]
    split
    · intro h
      have hbyte : UInt8.ofNat c.val.toNat = carriageReturn := Option.some.inj h
      have hnat := congrArg UInt8.toNat hbyte
      rw [UInt8.toNat_ofNat', show carriageReturn.toNat = 13 from rfl] at hnat
      refine Char.ext (UInt32.toNat_inj.1 ?_)
      exact (Nat.mod_eq_of_lt (by omega)).symm.trans hnat
    · repeat' split
      all_goals exact fun h => absurd (Option.some.inj h) (ofNat_continuation_ne _)
  · rintro rfl
    rfl

theorem getLast?_encode : (encode t).getLast? = some carriageReturn ↔ t.getLast? = some '\r' := by
  rcases List.eq_nil_or_concat t with rfl | ⟨s, c, rfl⟩
  · simp [encode]
  · have hne : String.utf8EncodeChar c ≠ [] := String.utf8EncodeChar_ne_nil
    rw [List.concat_eq_append, encode_append, List.getLast?_concat, Option.some.injEq,
      ← getLast?_utf8EncodeChar]
    simp [encode, List.getLast?_append_of_ne_nil _ hne]

/-- A line in bytes, with its end. A carriage return before the line feed is part of that. -/
inductive Line : Text → List UInt8 → Prop
  | plain {t : Text} : '\n' ∉ t → t.getLast? ≠ some '\r' → Line t (encode t ++ [lineFeed])
  | returned {t : Text} : '\n' ∉ t → Line t (encode t ++ [carriageReturn, lineFeed])

/-- Some lines are read from the front of an input, and the rest is left. What no line feed ends is
the last line, unless it is empty. -/
inductive Reads : List UInt8 → List Text → List UInt8 → Prop
  | nil (input : List UInt8) : Reads input [] input
  | last {t : Text} : t ≠ [] → '\n' ∉ t → Reads (encode t) [t] []
  | cons {t : Text} {line input rest : List UInt8} {lines : List Text} : Line t line →
      Reads input lines rest → Reads (line ++ input) (t :: lines) rest

theorem not_mem_of_encode (h : lineFeed ∉ encode t) : '\n' ∉ t :=
  fun ht => h (List.mem_flatMap.2 ⟨'\n', ht, by decide⟩)

theorem line_of_decode? (hb : lineFeed ∉ b) (h : decode? (dropReturn b) = some t) :
    Line t (b ++ [lineFeed]) := by
  rw [decode?_eq_some_iff, dropReturn] at h
  split at h
  · rename_i hlast
    have hsplit := List.dropLast_append_getLast? _ hlast
    rw [h] at hsplit
    rw [← hsplit, List.append_assoc]
    refine .returned (not_mem_of_encode fun ht => hb ?_)
    rw [← hsplit]
    exact List.mem_append_left _ ht
  · rename_i hlast
    subst h
    exact .plain (not_mem_of_encode hb) (mt getLast?_encode.2 hlast)

theorem ne_encode_of_decode? (h : decode? (dropReturn b) = none) (t : Text) : b ≠ encode t := by
  rw [decode?_eq_none_iff, dropReturn] at h
  split at h
  · rename_i hlast
    rintro rfl
    have hsplit := List.dropLast_append_getLast? _ (getLast?_encode.1 hlast)
    have hbytes : encode t = encode t.dropLast ++ [carriageReturn] := by
      rw [← hsplit, encode_append, List.dropLast_concat]
      rfl
    refine h t.dropLast ?_
    rw [hbytes, List.dropLast_concat]
  · exact h t

theorem linesFrom_append (line : List UInt8) (hb : lineFeed ∉ b) (bs : List UInt8) :
    linesFrom line (b ++ bs) = linesFrom (line ++ b) bs := by
  induction b generalizing line with
  | nil => rw [List.nil_append, List.append_nil]
  | cons x b ih =>
    obtain ⟨hx, hb⟩ := not_or.1 (mt List.mem_cons.2 hb)
    rw [List.cons_append, linesFrom, if_neg (Ne.symm hx), ih _ hb, List.append_assoc]
    rfl

theorem linesFrom_lineFeed (hb : lineFeed ∉ b) (bs : List UInt8) :
    linesFrom [] (b ++ lineFeed :: bs) = dropReturn b :: linesFrom [] bs := by
  rw [linesFrom_append [] hb, List.nil_append, linesFrom, if_pos rfl]

theorem linesFrom_of_not_mem (hb : lineFeed ∉ b) :
    linesFrom [] b = if b.isEmpty then [] else [b] := by
  rw [← List.append_nil b, linesFrom_append [] hb, linesFrom, List.nil_append, List.append_nil]

theorem reads_of_linesFrom {lines : List Text} {more : List (Option Text)}
    (h : (linesFrom [] bs).map decode? = lines.map some ++ more) :
    ∃ rest, Reads bs lines rest ∧ (linesFrom [] rest).map decode? = more := by
  induction lines generalizing bs with
  | nil => exact ⟨bs, .nil bs, h⟩
  | cons t lines ih =>
    by_cases hbs : lineFeed ∈ bs
    · obtain ⟨b, input, rfl, hb⟩ := List.eq_append_cons_of_mem hbs
      rw [linesFrom_lineFeed hb, List.map_cons, List.map_cons, List.cons_append] at h
      obtain ⟨hline, hinput⟩ := List.cons.inj h
      obtain ⟨rest, hreads, hmore⟩ := ih hinput
      refine ⟨rest, ?_, hmore⟩
      rw [List.append_cons]
      exact .cons (line_of_decode? hb hline) hreads
    · rw [linesFrom_of_not_mem hbs] at h
      split at h
      · cases h
      · rename_i hne
        obtain ⟨hline, hmore⟩ := List.cons.inj h
        obtain ⟨hlines, rfl⟩ := List.append_eq_nil_iff.1 hmore.symm
        obtain rfl := List.map_eq_nil_iff.1 hlines
        rw [decode?_eq_some_iff] at hline
        subst hline
        refine ⟨[], .last ?_ (not_mem_of_encode hbs), rfl⟩
        rintro rfl
        exact hne rfl

theorem eq_nil_of_linesFrom (h : linesFrom [] bs = []) : bs = [] := by
  by_cases hbs : lineFeed ∈ bs
  · obtain ⟨b, input, rfl, hb⟩ := List.eq_append_cons_of_mem hbs
    rw [linesFrom_lineFeed hb] at h
    cases h
  · rw [linesFrom_of_not_mem hbs] at h
    split at h
    · rename_i hempty
      exact List.isEmpty_iff.1 hempty
    · cases h

theorem ne_encode_of_linesFrom {more : List (Option Text)}
    (h : (linesFrom [] bs).map decode? = none :: more) (t : Text) :
    bs.takeWhile (· ≠ lineFeed) ≠ encode t := by
  have htake (b : List UInt8) (hb : lineFeed ∉ b) : ∀ x ∈ b, decide (x ≠ lineFeed) :=
    fun x hx => decide_eq_true fun hxb => hb (hxb ▸ hx)
  by_cases hbs : lineFeed ∈ bs
  · obtain ⟨b, input, rfl, hb⟩ := List.eq_append_cons_of_mem hbs
    rw [linesFrom_lineFeed hb] at h
    have hb' := (List.cons.inj h).1
    rw [List.takeWhile_append_of_pos (htake b hb), List.takeWhile_cons_of_neg (by simp),
      List.append_nil]
    exact ne_encode_of_decode? hb' t
  · rw [linesFrom_of_not_mem hbs] at h
    split at h
    · cases h
    · rw [← List.append_nil bs, List.takeWhile_append_of_pos (htake bs hbs), List.takeWhile_nil,
        List.append_nil]
      exact decode?_eq_none_iff.1 (List.cons.inj h).1 t

end ModalEditor.Program
