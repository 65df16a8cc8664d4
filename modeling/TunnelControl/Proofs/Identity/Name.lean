import TunnelControl.Identity.Name
import TunnelControl.Proofs.Result

namespace TunnelControl.Name

variable {name : String} {octets : Octets} {cs first label : List Char} {rest : List (List Char)}

def Leads (name : String) : Prop := (labels name.toList).head? ≠ some []

instance (name : String) : Decidable (Leads name) :=
  inferInstanceAs (Decidable (_ ≠ _))

def labelOctets (label : List Char) : Octets := label.flatMap Utf8.octetsOf

theorem labels_ne_nil (cs : List Char) : labels cs ≠ [] := by
  fun_induction labels cs <;> simp_all

theorem labels_join (split : labels cs = first :: rest) :
    first ++ rest.flatMap ('.' :: ·) = cs := by
  fun_induction labels cs generalizing first rest with
  | case1 =>
      cases split
      rfl
  | case2 cs ih =>
      obtain ⟨rfl, rfl⟩ := List.cons.inj split
      obtain ⟨second, others, found⟩ := List.exists_cons_of_ne_nil (labels_ne_nil cs)
      rw [found, List.flatMap_cons, List.nil_append, List.cons_append, ih found]
  | case3 c cs plain label more found ih =>
      obtain ⟨rfl, rfl⟩ := List.cons.inj split
      rw [List.cons_append, ih found]
  | case4 c cs plain found => exact absurd found (labels_ne_nil cs)

theorem labels_eq_splitOn (cs : List Char) : labels cs = cs.splitOn '.' := by
  fun_induction labels cs with
  | case1 => rw [List.splitOn_nil]
  | case2 cs ih =>
      rw [ih, List.splitOn, List.splitOn, List.splitOnP_cons_eq_if_modifyHead, beq_self_eq_true,
        if_pos rfl]
  | case3 c cs plain label more found ih =>
      rw [List.splitOn, List.splitOnP_cons_eq_if_modifyHead, beq_false_of_ne plain,
        if_neg Bool.false_ne_true, ← List.splitOn, ← ih, found, List.modifyHead_cons]
  | case4 c cs plain found => exact absurd found (labels_ne_nil cs)

theorem length_octetsOf (c : Char) : (Utf8.octetsOf c).length = c.utf8Size := by
  unfold Utf8.octetsOf Char.utf8Size Char.toNat
  simp only [UInt32.le_iff_toNat_le]
  grind

theorem length_labelOctets (label : List Char) :
    (labelOctets label).length = (String.ofList label).utf8ByteSize := by
  induction label with
  | nil => rfl
  | cons c label ih =>
      rw [labelOctets, List.flatMap_cons, List.length_append, length_octetsOf, ← labelOctets, ih]
      simp

theorem labelOctets_injective : Function.Injective labelOctets :=
  Function.LeftInverse.injective Utf8.characters_flatMap_octetsOf

theorem encodeLabel_eq_ok : encodeLabel name label = .ok octets ↔
    (labelOctets label).length ≤ 255 ∧
      octets = UInt8.ofNat (labelOctets label).length :: labelOctets label := by
  show (if 255 < (labelOctets label).length then _ else _) = _ ↔ _
  by_cases long : 255 < (labelOctets label).length
  · rw [if_pos long]
    exact iff_of_false (by simp) fun short => Nat.not_le.mpr long short.1
  · rw [if_neg long, Except.ok.injEq, eq_comm]
    exact (and_iff_right (Nat.not_lt.mp long)).symm

theorem exists_encodeLabel_iff :
    (∃ octets, encodeLabel name label = .ok octets) ↔ (labelOctets label).length ≤ 255 := by
  simp [encodeLabel_eq_ok]

theorem encode_eq_ok (filled : name.toList ≠ []) : encode name = .ok octets ↔
    ∃ parts, (labels name.toList).mapM (encodeLabel name) = .ok parts ∧
      octets = parts.flatten := by
  rw [encode, if_neg filled]
  exact Except.bind_ok_eq_ok

theorem exists_encode_iff : (∃ octets, encode name = .ok octets) ↔
    ∀ label ∈ labels name.toList, (labelOctets label).length ≤ 255 := by
  by_cases filled : name.toList = []
  · rw [encode, if_pos filled, filled]
    simp [labels, labelOctets]
  · simp only [encode_eq_ok filled, ← @exists_encodeLabel_iff name]
    rw [← Except.exists_mapM_iff]
    constructor
    · rintro ⟨octets, parts, done, _⟩
      exact ⟨parts, done⟩
    · rintro ⟨parts, done⟩
      exact ⟨parts.flatten, parts, done, rfl⟩

theorem readLabel_append (encoded : encodeLabel name label = .ok octets) (more : Octets) :
    readLabel (octets ++ more) = (.ok (labelOctets label), more) := by
  obtain ⟨short, rfl⟩ := encodeLabel_eq_ok.mp encoded
  have size : (UInt8.ofNat (labelOctets label).length).toNat = (labelOctets label).length :=
    Nat.mod_eq_of_lt (Nat.lt_succ_of_le short)
  rw [readLabel, List.cons_append, Reader.bind_ok (Reader.u8_cons ..), size,
    Reader.bind_ok (Reader.need_of_le (by simp)), Reader.take_append]

theorem all_readLabel {texts : List (List Char)} {parts : List Octets}
    (encoded : List.Forall₂ (encodeLabel name · = .ok ·) texts parts) :
    Reader.all readLabel parts.flatten = (texts.map labelOctets, none) := by
  induction encoded with
  | nil => rfl
  | @cons label octets texts parts first rest ih =>
      obtain ⟨_, same⟩ := encodeLabel_eq_ok.mp first
      have found := readLabel_append first parts.flatten
      rw [same, List.cons_append] at found
      rw [List.flatten_cons, same, List.cons_append,
        Reader.all_cons @readLabel_advances, found]
      simp only [ih, List.map_cons]

theorem all_of_encode (filled : name.toList ≠ []) (encoded : encode name = .ok octets) :
    Reader.all readLabel octets = ((labels name.toList).map labelOctets, none) := by
  obtain ⟨parts, done, rfl⟩ := (encode_eq_ok filled).mp encoded
  exact all_readLabel (Except.mapM_eq_ok.mp done)

theorem encode_inj {other : String} (encoded : encode name = .ok octets)
    (again : encode other = .ok octets) : other = name := by
  -- the empty name is the only one of which nothing is written
  have nothing {name : String} (encoded : encode name = .ok []) : name.toList = [] := by
    by_contra filled
    have none := congrArg Prod.fst (all_of_encode filled encoded)
    exact labels_ne_nil _ (List.map_eq_nil_iff.mp none.symm)
  rw [← String.toList_inj]
  by_cases empty : octets = []
  · rw [nothing (empty ▸ again), nothing (empty ▸ encoded)]
  · have filled {name : String} (encoded : encode name = .ok octets) : name.toList ≠ [] := by
      intro none
      rw [encode, if_pos none] at encoded
      exact empty (Except.ok.inj encoded).symm
    have read := (all_of_encode (filled again) again).symm.trans
      (all_of_encode (filled encoded) encoded)
    have same : labels other.toList = labels name.toList :=
      labelOctets_injective.list_map (congrArg Prod.fst read)
    obtain ⟨first, rest, split⟩ := List.exists_cons_of_ne_nil (labels_ne_nil name.toList)
    rw [← labels_join split, ← labels_join (same.trans split)]

theorem append_labelOctets (filled : name.toList ≠ []) (label : List Char) :
    append name (labelOctets label) = String.ofList (name.toList ++ '.' :: label) := by
  have nonempty : name.isEmpty = false := by
    rw [Bool.eq_false_iff, ne_eq, String.isEmpty_iff]
    rintro rfl
    exact filled rfl
  rw [append, nonempty, if_neg Bool.false_ne_true, ← String.toList_inj, labelOctets, Utf8.decode,
    Utf8.characters_flatMap_octetsOf]
  simp

theorem foldl_append (filled : name.toList ≠ []) (rest : List (List Char)) :
    (rest.map labelOctets).foldl append name =
      String.ofList (name.toList ++ rest.flatMap ('.' :: ·)) := by
  induction rest generalizing name with
  | nil => simp
  | cons label rest ih =>
      rw [List.map_cons, List.foldl_cons, append_labelOctets filled, ih (by simp)]
      simp

theorem append_empty (label : List Char) :
    append "" (labelOctets label) = String.ofList label := by
  show Utf8.decode (labelOctets label) = _
  rw [Utf8.decode, labelOctets, Utf8.characters_flatMap_octetsOf]

theorem foldl_append_labels (cs : List Char) :
    ((labels cs).map labelOctets).foldl append "" = String.ofList (cs.dropWhile (· = '.')) := by
  cases cs with
  | nil => exact append_empty []
  | cons c cs =>
      by_cases dot : c = '.'
      · -- an empty label leaves the name as it was
        rw [labels, if_pos dot, List.map_cons, List.foldl_cons, append_empty, List.dropWhile_cons,
          if_pos (decide_eq_true dot)]
        exact foldl_append_labels cs
      · obtain ⟨label, rest, split⟩ := List.exists_cons_of_ne_nil (labels_ne_nil cs)
        have split : labels (c :: cs) = (c :: label) :: rest := by
          rw [labels, if_neg dot, split]
        rw [split, List.map_cons, List.foldl_cons, append_empty, foldl_append (by simp),
          String.toList_ofList, labels_join split, List.dropWhile_cons, if_neg (by simpa using dot)]

theorem decode_of_encode (encoded : encode name = .ok octets) :
    decode octets = .ok (String.ofList (name.toList.dropWhile (· = '.'))) := by
  by_cases empty : name.toList = []
  · rw [encode, if_pos empty] at encoded
    cases encoded
    rw [empty]
    rfl
  · rw [decode, all_of_encode empty encoded]
    exact congrArg Except.ok (foldl_append_labels name.toList)

theorem ofList_dropWhile_eq_iff :
    String.ofList (name.toList.dropWhile (· = '.')) = name ↔ name.toList.head? ≠ some '.' := by
  rw [← String.toList_inj, String.toList_ofList]
  cases name.toList with
  | nil => simp
  | cons c cs =>
      by_cases dot : c = '.'
      · have shorter : (cs.dropWhile (· = '.')).length < (c :: cs).length :=
          Nat.lt_succ_of_le (List.dropWhile_suffix _).length_le
        rw [List.dropWhile_cons, if_pos (decide_eq_true dot)]
        exact iff_of_false (fun same => Nat.ne_of_lt shorter (congrArg List.length same))
          (by simp [dot])
      · simp [dot]

theorem head?_ne_of_leads (leads : Leads name) : name.toList.head? ≠ some '.' := by
  intro dot
  obtain ⟨cs, same⟩ := List.head?_eq_some_iff.mp dot
  exact leads (by rw [same, labels, if_pos rfl, List.head?_cons])

theorem decode_encode (leads : Leads name) (encoded : encode name = .ok octets) :
    decode octets = .ok name := by
  rw [decode_of_encode encoded, ofList_dropWhile_eq_iff.mpr (head?_ne_of_leads leads)]

/-- A name has octets if no label between its dots takes more than 255. They are those of no other
name, and the name is read back from them unless it starts with a dot: dots in front are lost. -/
theorem read_back_iff (name : String) :
    ((∃ octets, encode name = .ok octets) ↔
      ∀ label ∈ name.toList.splitOn '.', (String.ofList label).utf8ByteSize ≤ 255) ∧
    ∀ octets, encode name = .ok octets →
      decode octets = .ok (String.ofList (name.toList.dropWhile (· = '.'))) ∧
      (decode octets = .ok name ↔ name.toList.head? ≠ some '.') ∧
      ∀ other, encode other = .ok octets → other = name := by
  constructor
  · simp only [exists_encode_iff, labels_eq_splitOn, length_labelOctets]
  · intro octets encoded
    refine ⟨decode_of_encode encoded, ?_, fun other => encode_inj encoded⟩
    rw [decode_of_encode encoded, Except.ok.injEq, ofList_dropWhile_eq_iff]

theorem read_back_iff_inside :
    let name := "é..b."
    let octets : Octets := [2, 0xC3, 0xA9, 0, 1, 98, 0]
    encode name = .ok octets ∧ name.toList.head? ≠ some '.' ∧ decode octets = .ok name ∧
      ∀ other, encode other = .ok octets → other = name := by
  intro name octets
  have encoded : encode name = .ok octets := by decide
  have leading : name.toList.head? ≠ some '.' := by decide
  obtain ⟨_, read, only⟩ := (read_back_iff name).2 octets encoded
  exact ⟨encoded, leading, read.mpr leading, only⟩

theorem not_read_back_dot :
    encode ".a" = .ok [0, 1, 97] ∧ decode [0, 1, 97] = .ok "a" ∧ decode [0, 1, 97] ≠ .ok ".a" := by
  have encoded : encode ".a" = .ok [0, 1, 97] := by decide
  have read : decode [0, 1, 97] = .ok "a" := decode_of_encode encoded
  refine ⟨encoded, read, ?_⟩
  rw [read]
  decide

end TunnelControl.Name
