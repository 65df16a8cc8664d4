import TunnelControl.Proofs.Message.NormalForm

namespace TunnelControl

variable {groups : Groups} {octets rest : Octets} {kept : Nat}

namespace Header

variable {header : Header}

def shortfall (header : Header) (kept : Nat) : Error :=
  if kept < fixedSize then .tooShort fixedSize kept
  else if kept < header.size then .tooShort (header.size - fixedSize) (kept - fixedSize)
  else .tooShort (fixedSize + header.length.toNat) kept

theorem exists_shortfall_eq (short : kept < fixedSize + header.length.toNat) :
    ∃ needed available, available < needed ∧
      header.shortfall kept = .tooShort needed available := by
  unfold shortfall
  split
  · next few => exact ⟨_, _, few, rfl⟩
  · next enough =>
      split
      · exact ⟨_, _, by omega, rfl⟩
      · exact ⟨_, _, short, rfl⟩

theorem shortfall_eq_missing (few : kept < header.size) :
    header.shortfall kept = missing header.size kept := by
  rw [shortfall, if_pos few, missing]

theorem read_take_of_lt (found : read octets = (.ok header, rest)) (few : kept < header.size) :
    ∃ left, read (octets.take kept) = (.error (header.shortfall kept), left) := by
  obtain ⟨announced, whole⟩ := size_of_read found
  have length : (octets.take kept).length = kept := by
    rw [List.length_take, whole]
    omega
  rw [shortfall_eq_missing few]
  cases kept with
  | zero => exact ⟨_, rfl⟩
  | succ kept =>
      -- the first octet is still there, and tells the same size
      have front : (octets.take (kept + 1)).headD 0 = octets.headD 0 := by
        cases octets <;> rfl
      have short : (octets.take (kept + 1)).length <
          sizeOfFlags ((octets.take (kept + 1)).headD 0) := by
        rwa [length, front, announced]
      have refused := read_of_short short
      rwa [length, front, announced] at refused

theorem read_take_of_le (found : read octets = (.ok header, rest)) (whole : header.size ≤ kept) :
    read (octets.take kept) = (.ok header, rest.take (kept - header.size)) := by
  obtain ⟨short, flags, spare, version, piggybacked, addressed, rfl⟩ := read_eq_ok.mp found
  refine read_eq_ok.mpr ⟨short, flags, spare, version, piggybacked, addressed, ?_⟩
  rw [List.take_append, length_spelled, List.take_of_length_le (by rwa [length_spelled])]

end Header

namespace Message

variable {message : Message}

theorem parse_of_read_error {error : Error} (read : Header.read octets = (.error error, rest)) :
    parse groups octets = .error error := by
  unfold parse
  rw [read]

theorem parse_of_parseBody_error {header : Header} {error : Error}
    (read : Header.read octets = (.ok header, rest))
    (version : header.version = Header.supportedVersion)
    (body : parseBody groups header octets.length rest = .error error) :
    parse groups octets = .error error := by
  unfold parse
  simp only [read, version, ne_eq, not_true_eq_false, if_false, body]
  rfl

theorem parseBody_of_short {header : Header} {available : Nat}
    (short : available < Header.fixedSize + header.length.toNat) (rest : Octets) :
    parseBody groups header available rest =
      .error (.tooShort (Header.fixedSize + header.length.toNat) available) := by
  unfold parseBody
  rw [if_pos short]
  rfl

theorem parse_take (version : versionBits octets = some Header.supportedVersion)
    (parsed : parse groups octets = .ok message)
    (cut : kept < Header.fixedSize + message.header.length.toNat) :
    parse groups (octets.take kept) = .error (message.header.shortfall kept) := by
  obtain ⟨rest, elements, read, bodied, _⟩ := exists_of_parse version parsed
  by_cases few : kept < message.header.size
  · obtain ⟨left, refused⟩ := Header.read_take_of_lt read few
    exact parse_of_read_error refused
  · have supported := (Received.of_parse version parsed).version
    have least := message.header.fixedSize_le_size
    have length : (octets.take kept).length = kept := by
      have fits := (parseBody_eq_ok.mp bodied).1
      rw [List.length_take]
      omega
    have again := Header.read_take_of_le read (Nat.not_lt.mp few)
    apply parse_of_parseBody_error again supported
    rw [length, parseBody_of_short cut, Header.shortfall, if_neg (by omega), if_neg few]

theorem parse_take_append (version : versionBits octets = some Header.supportedVersion)
    (parsed : parse groups octets = .ok message) (more : Octets) :
    parse groups (octets.take (Header.fixedSize + message.header.length.toNat) ++ more) =
      .ok message := by
  obtain ⟨rest, elements, read, bodied, body⟩ := exists_of_parse version parsed
  obtain ⟨fits, front, back, rfl, whole, accepted⟩ := parseBody_eq_ok.mp bodied
  have supported := (Received.of_parse version parsed).version
  have own : Header.read (octets.take (Header.fixedSize + message.header.length.toNat)) =
      (.ok message.header, front) := by
    rw [Header.read_take_of_le read (Nat.le.intro whole), ← whole, Nat.add_sub_cancel_left,
      List.take_left]
  have covers : Header.fixedSize + message.header.length.toNat ≤
      (octets.take (Header.fixedSize + message.header.length.toNat) ++ more).length := by
    rw [List.length_append, List.length_take]
    omega
  rw [parse_of_read (Header.read_append own more) supported
    (parseBody_eq_ok.mpr ⟨covers, front, more, rfl, whole, accepted⟩), ← body]

/-- A message is told by the octets that its length field counts. Whatever follows them, the same
message is read, and with fewer of them none is. -/
theorem framed_by_length (version : versionBits octets = some Header.supportedVersion)
    (parsed : parse groups octets = .ok message) :
    let total := Header.fixedSize + lengthField octets
    (∀ more, parse groups (octets.take total ++ more) = .ok message) ∧
      ∀ kept < total, ∃ needed available, available < needed ∧
        message.header.shortfall kept = .tooShort needed available ∧
        parse groups (octets.take kept) = .error (.tooShort needed available) := by
  intro total
  obtain ⟨_, _, read, _⟩ := exists_of_parse version parsed
  have same : total = Header.fixedSize + message.header.length.toNat :=
    congrArg _ (lengthField_of_read read)
  rw [same]
  refine ⟨parse_take_append version parsed, fun kept cut => ?_⟩
  obtain ⟨needed, available, missing, short⟩ := Header.exists_shortfall_eq cut
  exact ⟨needed, available, missing, short, short ▸ parse_take version parsed cut⟩

theorem framed_by_length_nested :
    let octets : Octets :=
      [0x48, 32, 0, 17, 0, 0, 0, 1, 0, 0, 7, 0, 93, 0, 5, 0, 73, 0, 1, 0, 5, 0xDE, 0xAD]
    let message : Message := {
      header := { type := 32, length := 17, teid := some 1, sequence := 7 }
      body := .ofElements 32 [.group .bearerContext 0 [73, 0, 1, 0, 5] [.leaf .ebi 0 [5]]] }
    versionBits octets = some Header.supportedVersion ∧ parse .standard octets = .ok message ∧
      (∀ more, parse .standard (octets.take 21 ++ more) = .ok message) ∧
      parse .standard (octets.take 3) = .error (.tooShort 4 3) ∧
      parse .standard (octets.take 9) = .error (.tooShort 8 5) ∧
      parse .standard (octets.take 20) = .error (.tooShort 21 20) := by
  intro octets message
  have version : versionBits octets = some Header.supportedVersion := rfl
  have parsed : parse .standard octets = .ok message := by
    unfold octets message
    rfl
  obtain ⟨followed, cut⟩ := framed_by_length version parsed
  have missing {kept : Nat} (few : kept < 21) :
      parse .standard (octets.take kept) = .error (message.header.shortfall kept) := by
    obtain ⟨_, _, _, short, refused⟩ := cut kept few
    rw [short, refused]
  exact ⟨version, parsed, followed, missing (by decide), missing (by decide), missing (by decide)⟩

end Message

end TunnelControl
