import ArchLint.Text.Record
import ArchLint.Text.Utf8
import Mathlib.Data.List.Infix

namespace ArchLint

namespace Text

section Bytes

theorem toList_eq_data (bytes : ByteArray) : bytes.toList = bytes.data.toList := by
  have hloop : ∀ (i : Nat) (done : List UInt8),
      ByteArray.toList.loop bytes i done = done.reverse ++ bytes.data.toList.drop i := by
    intro i done
    fun_induction ByteArray.toList.loop bytes i done with
    | case1 i done hi ih =>
        have hlt : i < bytes.data.toList.length := by simpa using hi
        rw [ih, List.drop_eq_getElem_cons hlt]
        simp [ByteArray.get!, hi]
    | case2 i done hi =>
        rw [List.drop_eq_nil_of_le (by simpa using Nat.le_of_not_lt hi)]
        simp
  simp [ByteArray.toList, hloop]

theorem toList_toByteArray (bytes : List UInt8) : bytes.toByteArray.toList = bytes := by
  rw [toList_eq_data, List.toList_data_toByteArray]

theorem ext_toList {a b : ByteArray} (h : a.toList = b.toList) : a = b := by
  rw [toList_eq_data, toList_eq_data] at h
  exact ByteArray.ext (Array.toList_inj.mp h)

theorem toList_toBytes (s : String) :
    (toBytes s).toList = s.toList.flatMap String.utf8EncodeChar := by
  have hencode : toBytes s = s.toList.utf8Encode := String.utf8Encode_toList.symm
  rw [hencode, List.utf8Encode, toList_toByteArray]

/-- A byte inside a character. -/
def IsContinuation (b : UInt8) : Prop :=
  0x80 ≤ b.toNat ∧ b.toNat < 0xc0

theorem isContinuation_ofNat (n : Nat) : IsContinuation (UInt8.ofNat (n % 0x40 + 0x80)) := by
  simp only [IsContinuation, UInt8.toNat_ofNat']
  omega

theorem continuation?_ofNat (n : Nat) :
    continuation? (UInt8.ofNat (n % 0x40 + 0x80)) = some (n % 0x40) := by
  have hnat : (UInt8.ofNat (n % 0x40 + 0x80)).toNat = n % 0x40 + 0x80 := by
    rw [UInt8.toNat_ofNat']
    omega
  have hcontinuation := isContinuation_ofNat n
  rw [continuation?, if_pos, hnat, Nat.add_sub_cancel]
  rw [UInt8.le_iff_toNat_le, UInt8.lt_iff_toNat_lt]
  exact hcontinuation

theorem firstChar?_continuation {b : UInt8} (hb : IsContinuation b) (rest : List UInt8) :
    firstChar? (b :: rest) = none := by
  have hnot : ¬b < 0x80 := by
    rw [UInt8.lt_iff_toNat_lt]
    exact Nat.not_lt.mpr hb.1
  have hlt : b < 0xc0 := by
    rw [UInt8.lt_iff_toNat_lt]
    exact hb.2
  simp only [firstChar?, if_neg hnot, if_pos hlt]

section FirstByte

variable {a b c d : UInt8} {x y z : Nat} (rest : List UInt8)

theorem firstChar?_two (hlo : 0xc0 ≤ a.toNat) (hhi : a.toNat < 0xe0)
    (hb : continuation? b = some x) :
    (∀ part : List UInt8, part.length < 1 → firstChar? (a :: part) = none) ∧
      firstChar? (a :: b :: rest) = checked 0x80 ((a.toNat - 0xc0) * 64 + x) rest := by
  have hfirst : ¬a < 0x80 ∧ ¬a < 0xc0 ∧ a < 0xe0 := by
    simp only [UInt8.lt_iff_toNat_lt, UInt8.reduceToNat]
    omega
  simp only [firstChar?.eq_def, hfirst, if_false, if_true, hb]
  refine ⟨?_, rfl⟩
  rintro (_ | ⟨_, _⟩) hpart
  · rfl
  · simp only [List.length_cons] at hpart
    omega

theorem firstChar?_three (hlo : 0xe0 ≤ a.toNat) (hhi : a.toNat < 0xf0)
    (hb : continuation? b = some x) (hc : continuation? c = some y) :
    (∀ part : List UInt8, part.length < 2 → firstChar? (a :: part) = none) ∧
      firstChar? (a :: b :: c :: rest) =
        checked 0x800 (((a.toNat - 0xe0) * 64 + x) * 64 + y) rest := by
  have hfirst : ¬a < 0x80 ∧ ¬a < 0xc0 ∧ ¬a < 0xe0 ∧ a < 0xf0 := by
    simp only [UInt8.lt_iff_toNat_lt, UInt8.reduceToNat]
    omega
  simp only [firstChar?.eq_def, hfirst, if_false, if_true, hb, hc]
  refine ⟨?_, rfl⟩
  rintro (_ | ⟨_, _ | ⟨_, _⟩⟩) hpart
  · rfl
  · rfl
  · simp only [List.length_cons] at hpart
    omega

theorem firstChar?_four (hlo : 0xf0 ≤ a.toNat) (hb : continuation? b = some x)
    (hc : continuation? c = some y) (hd : continuation? d = some z) :
    (∀ part : List UInt8, part.length < 3 → firstChar? (a :: part) = none) ∧
      firstChar? (a :: b :: c :: d :: rest) =
        checked 0x10000 ((((a.toNat - 0xf0) * 64 + x) * 64 + y) * 64 + z) rest := by
  have hfirst : ¬a < 0x80 ∧ ¬a < 0xc0 ∧ ¬a < 0xe0 ∧ ¬a < 0xf0 := by
    simp only [UInt8.lt_iff_toNat_lt, UInt8.reduceToNat]
    omega
  simp only [firstChar?.eq_def, hfirst, if_false, hb, hc, hd]
  refine ⟨?_, rfl⟩
  rintro (_ | ⟨_, _ | ⟨_, _ | ⟨_, _⟩⟩⟩) hpart
  · rfl
  · rfl
  · rfl
  · simp only [List.length_cons] at hpart
    omega

end FirstByte

theorem checked_char {least n : Nat} {c : Char} (hn : n = c.toNat) (hleast : least ≤ n)
    (rest : List UInt8) : checked least n rest = some (c, rest) := by
  have hvalid : c.toNat < 0xd800 ∨ 0xdfff < c.toNat ∧ c.toNat < 0x110000 := c.valid
  rw [checked, if_pos ⟨hleast, by omega, by omega⟩, hn, Char.ofNat_toNat]

/-- How a character is written: a first byte that tells how many bytes follow,
and those bytes. -/
theorem encoded_char (c : Char) :
    ∃ a more, String.utf8EncodeChar c = a :: more ∧ (∀ b ∈ more, IsContinuation b) ∧
      (∀ rest, firstChar? (a :: (more ++ rest)) = some (c, rest)) ∧
      ∀ part : List UInt8, part.length < more.length → firstChar? (a :: part) = none := by
  have hvalid : c.toNat < 0xd800 ∨ 0xdfff < c.toNat ∧ c.toNat < 0x110000 := c.valid
  have hval : c.val.toNat = c.toNat := rfl
  have hbyte : ∀ n, n < 256 → (UInt8.ofNat n).toNat = n := fun n => UInt8.toNat_ofNat_of_lt'
  simp only [String.utf8EncodeChar, hval]
  split_ifs with h1 h2 h3
  · have hnat := hbyte c.toNat (by omega)
    have hfirst : UInt8.ofNat c.toNat < 0x80 := by
      rw [UInt8.lt_iff_toNat_lt, hnat]
      exact Nat.lt_succ_of_le h1
    refine ⟨_, _, rfl, by simp, fun rest => ?_, by simp⟩
    unfold firstChar?
    simp only [if_pos hfirst, hnat, Char.ofNat_toNat, List.nil_append]
  · have hnat := hbyte (c.toNat / 64 % 0x20 + 0xc0) (by omega)
    have hread := fun rest => firstChar?_two (a := UInt8.ofNat (c.toNat / 64 % 0x20 + 0xc0)) rest
      (by omega) (by omega) (continuation?_ofNat c.toNat)
    refine ⟨_, _, rfl, ?_, fun rest => ?_, (hread []).1⟩
    · simp only [List.mem_cons, List.not_mem_nil, or_false]
      rintro b rfl
      exact isContinuation_ofNat _
    · exact (hread rest).2.trans (checked_char (by omega) (by omega) rest)
  · have hnat := hbyte (c.toNat / 4096 % 0x10 + 0xe0) (by omega)
    have hread := fun rest =>
      firstChar?_three (a := UInt8.ofNat (c.toNat / 4096 % 0x10 + 0xe0)) rest
        (by omega) (by omega) (continuation?_ofNat (c.toNat / 64)) (continuation?_ofNat c.toNat)
    refine ⟨_, _, rfl, ?_, fun rest => ?_, (hread []).1⟩
    · simp only [List.mem_cons, List.not_mem_nil, or_false]
      rintro b (rfl | rfl) <;> exact isContinuation_ofNat _
    · exact (hread rest).2.trans (checked_char (by omega) (by omega) rest)
  · have hnat := hbyte (c.toNat / 262144 % 0x08 + 0xf0) (by omega)
    have hread := fun rest =>
      firstChar?_four (a := UInt8.ofNat (c.toNat / 262144 % 0x08 + 0xf0)) rest
        (by omega) (continuation?_ofNat (c.toNat / 4096)) (continuation?_ofNat (c.toNat / 64))
        (continuation?_ofNat c.toNat)
    refine ⟨_, _, rfl, ?_, fun rest => ?_, (hread []).1⟩
    · simp only [List.mem_cons, List.not_mem_nil, or_false]
      rintro b (rfl | rfl | rfl) <;> exact isContinuation_ofNat _
    · exact (hread rest).2.trans (checked_char (by omega) (by omega) rest)

theorem charsFrom_continuations (n : Nat) {bytes : List UInt8}
    (hbytes : ∀ b ∈ bytes, IsContinuation b) : ∀ o ∈ charsFrom n bytes, o = none := by
  induction n generalizing bytes with
  | zero => simp [charsFrom]
  | succ n ih =>
      cases bytes with
      | nil => simp [charsFrom]
      | cons b rest =>
          obtain ⟨hb, hrest⟩ := List.forall_mem_cons.mp hbytes
          simp only [charsFrom, firstChar?_continuation hb]
          exact List.forall_mem_cons.mpr ⟨rfl, ih hrest⟩

/-- Of a cut text the characters before the cut are read, and bytes that belong
to none. -/
theorem charsFrom_cut (chars : List Char) {part : List UInt8}
    (hpart : part <+: chars.flatMap String.utf8EncodeChar) {n : Nat} (hn : part.length ≤ n) :
    ∃ whole junk, whole <+: chars ∧ (∀ o ∈ junk, o = none) ∧
      charsFrom n part = whole.map some ++ junk := by
  induction chars generalizing part n with
  | nil =>
      obtain rfl := List.prefix_nil.mp hpart
      exact ⟨[], [], List.prefix_rfl, by simp, by cases n <;> rfl⟩
  | cons c chars ih =>
      obtain ⟨a, more, hencode, hmore, hwhole, hcut⟩ := encoded_char c
      rw [List.flatMap_cons, hencode, List.cons_append] at hpart
      rcases List.prefix_cons_iff.mp hpart with rfl | ⟨tail, rfl, htail⟩
      · exact ⟨[], [], List.nil_prefix, by simp, by cases n <;> rfl⟩
      obtain ⟨n, rfl⟩ : ∃ m, n = m + 1 := ⟨n - 1, by simp at hn; omega⟩
      by_cases hin : more <+: tail
      · obtain ⟨rest, rfl⟩ := hin
        obtain ⟨whole, junk, hprefix, hjunk, heq⟩ :=
          ih ((List.prefix_append_right_inj more).mp htail) (n := n) (by simp at hn; omega)
        refine ⟨c :: whole, junk, List.cons_prefix_cons.mpr ⟨rfl, hprefix⟩, hjunk, ?_⟩
        simp only [charsFrom, hwhole, heq, List.map_cons, List.cons_append]
      -- the cut is inside the character
      · have hshort : tail <+: more :=
          (List.prefix_or_prefix_of_prefix htail (List.prefix_append _ _)).resolve_right hin
        have hlt : tail.length < more.length :=
          lt_of_le_of_ne hshort.length_le fun h => hin (hshort.eq_of_length h ▸ List.prefix_rfl)
        refine ⟨[], charsFrom (n + 1) (a :: tail), List.nil_prefix, ?_, rfl⟩
        simp only [charsFrom, hcut tail hlt]
        exact List.forall_mem_cons.mpr
          ⟨rfl, charsFrom_continuations n fun b hb => hmore b (hshort.subset hb)⟩

theorem prefix_of_toBytes_prefix {s t : String} (h : (toBytes s).toList <+: (toBytes t).toList) :
    s.toList <+: t.toList := by
  obtain ⟨rest, hrest⟩ := h
  refine List.isPrefix_of_utf8Encode_append_eq_utf8Encode rest.toByteArray (ext_toList ?_)
  rw [toList_toBytes, toList_toBytes] at hrest
  rw [List.utf8Encode, List.utf8Encode, toList_toByteArray, ← hrest, ← List.toByteArray_append,
    toList_toByteArray]

@[simp] theorem ofBytes?_toBytes (s : String) : ofBytes? (toBytes s) = some s := by
  simp [ofBytes?, toBytes, String.fromUTF8?, String.fromUTF8, s.isValidUTF8]

@[simp] theorem ofBytes_toBytes (s : String) : ofBytes (toBytes s) = s := by
  simp [ofBytes]

theorem ofBytes_cut {bytes : ByteArray} {s : String}
    (h : bytes.toList <+: (toBytes s).toList) :
    ∃ whole junk, whole <+: s.toList ∧ (∀ c ∈ junk, c = '\ufffd') ∧
      (ofBytes bytes).toList = whole ++ junk := by
  rw [ofBytes]
  split
  next text htext =>
    have hbytes : toBytes text = bytes := by
      simp only [ofBytes?, String.fromUTF8?, Option.dite_none_right_eq_some, Option.some.injEq]
        at htext
      obtain ⟨_, rfl⟩ := htext
      rfl
    subst hbytes
    exact ⟨text.toList, [], prefix_of_toBytes_prefix h, by simp, by simp⟩
  next =>
    rw [toList_toBytes] at h
    obtain ⟨whole, junk, hwhole, hjunk, heq⟩ := charsFrom_cut s.toList h le_rfl
    refine ⟨whole, junk.map (·.getD '\ufffd'), hwhole, ?_, ?_⟩
    · simp only [List.forall_mem_map]
      intro o ho
      rw [hjunk o ho, Option.getD_none]
    · simp only [String.toList_ofList, heq, List.map_append, List.map_map]
      congr 1
      exact List.map_id _

end Bytes

section Items

theorem readItem_escape (field : List Char) (fields : List String) (c : Char) (rest : List Char) :
    readItem field fields (escapeFieldChar c ++ rest) = readItem (c :: field) fields rest := by
  have hmarks : fieldEscape ≠ itemEnd ∧ fieldEscape ≠ fieldEnd := by decide
  rw [escapeFieldChar]
  split_ifs with hitem hfield hescape
  · subst hitem
    simp [readItem, unescapeFieldChar?, hmarks]
  · subst hfield
    simp [readItem, unescapeFieldChar?, hmarks]
  · subst hescape
    simp [readItem, unescapeFieldChar?, hmarks]
  · simp only [List.singleton_append]
    rw [readItem.eq_def]
    simp only [if_neg hitem, if_neg hfield, if_neg hescape]

theorem readItem_writeField (fields : List String) (text : String) (rest : List Char) :
    readItem [] fields (writeField text ++ rest) = readItem [] (text :: fields) rest := by
  have hchars : ∀ (chars field : List Char),
      readItem field fields (chars.flatMap escapeFieldChar ++ fieldEnd :: rest) =
        readItem [] (String.ofList (field.reverse ++ chars) :: fields) rest := by
    intro chars
    induction chars with
    | nil =>
        intro field
        have hmark : fieldEnd ≠ itemEnd := by decide
        rw [List.flatMap_nil, List.nil_append, List.append_nil, readItem.eq_def]
        simp only [if_neg hmark, if_true]
    | cons c chars ih =>
        intro field
        rw [List.flatMap_cons, List.append_assoc, readItem_escape, ih]
        simp
  have h := hchars text.toList []
  rw [List.reverse_nil, List.nil_append, String.ofList_toList] at h
  rw [writeField, List.append_assoc, List.singleton_append, h]

theorem readItem_writeFields (fields : List String) (rest : List Char) :
    readItem [] [] (writeFields fields ++ itemEnd :: rest) = some (fields, rest) := by
  have hfields : ∀ done,
      readItem [] done (writeFields fields ++ itemEnd :: rest) =
        some (done.reverse ++ fields, rest) := by
    induction fields with
    | nil =>
        intro done
        rw [writeFields, List.flatMap_nil, List.nil_append, readItem.eq_def]
        simp
    | cons text fields ih =>
        intro done
        rw [writeFields, List.flatMap_cons, List.append_assoc, readItem_writeField]
        rw [← writeFields, ih]
        simp
  simpa using hfields []

theorem readFields?_joinFields (fields : List String) :
    readFields? (joinFields fields) = some fields := by
  simp [readFields?, joinFields, readItem_writeFields]

theorem readItem_of_no_end {s : List Char} (hs : itemEnd ∉ s) (field : List Char)
    (fields : List String) : readItem field fields s = none := by
  fun_induction readItem field fields s <;> simp_all

theorem itemEnd_notMem_writeFields (fields : List String) : itemEnd ∉ writeFields fields := by
  have hchar : ∀ c, itemEnd ∉ escapeFieldChar c := by
    intro c
    rw [escapeFieldChar]
    split_ifs with hitem hfield hescape
    · decide
    · decide
    · decide
    · exact fun hmem => hitem (List.mem_singleton.mp hmem).symm
  have hmark : itemEnd ≠ fieldEnd := by decide
  simp [writeFields, writeField, hchar, hmark]

theorem cut_items {items : List (List String)} {whole : List Char}
    (h : whole <+: items.flatMap writeItem) :
    ∃ before tail, before <+: items ∧ itemEnd ∉ tail ∧
      whole = before.flatMap writeItem ++ tail := by
  induction items generalizing whole with
  | nil =>
      obtain rfl := List.prefix_nil.mp h
      exact ⟨[], [], List.prefix_rfl, by simp, rfl⟩
  | cons item items ih =>
      rw [List.flatMap_cons] at h
      by_cases hin : writeItem item <+: whole
      · obtain ⟨rest, rfl⟩ := hin
        obtain ⟨before, tail, hbefore, htail, rfl⟩ :=
          ih ((List.prefix_append_right_inj _).mp h)
        refine ⟨item :: before, tail, List.cons_prefix_cons.mpr ⟨rfl, hbefore⟩, htail, ?_⟩
        rw [List.flatMap_cons, List.append_assoc]
      · have hshort : whole <+: writeItem item :=
          (List.prefix_or_prefix_of_prefix h (List.prefix_append _ _)).resolve_right hin
        rcases List.prefix_concat_iff.mp hshort with rfl | hfields
        · exact absurd List.prefix_rfl hin
        · exact ⟨[], whole, List.nil_prefix,
            fun hmem => itemEnd_notMem_writeFields item (hfields.subset hmem), rfl⟩

theorem readItems_items {items : List (List String)} {tail : List Char} (htail : itemEnd ∉ tail)
    {n : Nat} (hn : (items.flatMap writeItem ++ tail).length ≤ n) :
    (readItems n (items.flatMap writeItem ++ tail)).1 = items := by
  induction items generalizing n with
  | nil =>
      cases n <;> cases tail <;> simp [readItems, readItem_of_no_end htail]
  | cons item items ih =>
      obtain ⟨n, rfl⟩ : ∃ m, n = m + 1 := ⟨n - 1, by simp [writeItem] at hn; omega⟩
      have hread : readItem [] [] ((item :: items).flatMap writeItem ++ tail) =
          some (item, items.flatMap writeItem ++ tail) := by
        rw [List.flatMap_cons, writeItem, List.append_assoc, List.append_assoc,
          List.singleton_append, readItem_writeFields]
      have hne : (item :: items).flatMap writeItem ++ tail ≠ [] := by simp [writeItem]
      rw [readItems, hread]
      · simp only [List.cons.injEq, true_and]
        exact ih (by simp [writeItem] at hn ⊢; omega)
      · exact hne

theorem readItems_cut {items : List (List String)} {bytes : ByteArray}
    (h : bytes.toList <+: (toBytes (String.ofList (items.flatMap writeItem))).toList) :
    (readItems (ofBytes bytes).toList.length (ofBytes bytes).toList).1 <+: items := by
  obtain ⟨whole, junk, hwhole, hjunk, heq⟩ := ofBytes_cut h
  rw [String.toList_ofList] at hwhole
  obtain ⟨before, tail, hbefore, htail, rfl⟩ := cut_items hwhole
  have hend : itemEnd ∉ tail ++ junk := by
    rw [List.mem_append]
    rintro (hmem | hmem)
    · exact htail hmem
    · exact absurd (hjunk _ hmem) (by decide)
  rw [heq, List.append_assoc, readItems_items hend le_rfl]
  exact hbefore

end Items

end Text

end ArchLint
