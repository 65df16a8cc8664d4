import TunnelControl.Proofs.Element.Bounds
import TunnelControl.Proofs.Message.Inversion
import TunnelControl.Message.Basic

namespace TunnelControl

def Octets.slice (first last : Nat) (octets : Octets) : Except Error Octets :=
  if first ≤ last ∧ last ≤ octets.length then .ok ((octets.take last).drop first)
  else .error .overrun

theorem Header.guarded_read : Reader.Guarded Header.read := by
  intro octets overruns
  obtain ⟨_, same⟩ := value_eq_error.mp overruns
  unfold missing at same
  split at same <;> cases same

namespace Message

variable {groups : Groups} {header : Header} {octets rest : Octets}

def sliceBody (header : Header) (octets : Octets) : Except Error Octets :=
  let total := Header.fixedSize + header.length.toNat
  if octets.length < total then .error (.tooShort total octets.length)
  else if total < header.size then .error (.malformed (.lengthBelowHeader header.length))
  else octets.slice header.size total

def parseSliced (groups : Groups) (octets : Octets) : Except Error Message :=
  match Header.read octets with
  | (.error error, _) => .error error
  | (.ok header, _) =>
      if header.version ≠ Header.supportedVersion then
        .ok { header, body := .generic header.type [] }
      else do
        let elements ← Element.decodeAll groups (← sliceBody header octets)
        return { header, body := .ofElements header.type elements }

theorem sliceBody_ne_overrun (header : Header) (octets : Octets) :
    sliceBody header octets ≠ .error .overrun := by
  unfold sliceBody Octets.slice
  simp only
  split
  · nofun
  split
  · nofun
  · -- what was checked is just what the positions need
    next enough order => simp [Nat.not_lt.mp enough, Nat.not_lt.mp order]

theorem parseBody_eq_sliceBody (read : Header.read octets = (.ok header, rest)) :
    parseBody groups header octets.length rest =
      sliceBody header octets >>= Element.decodeAll groups := by
  -- the header takes as many octets as its size says, so that what follows starts at that position
  obtain ⟨_, whole⟩ := Header.size_of_read read
  unfold parseBody sliceBody Octets.slice
  generalize Header.fixedSize + header.length.toNat = total
  by_cases few : octets.length < total
  · simp only [few, if_true]
    rfl
  by_cases below : total < header.size
  · simp only [few, below, if_true, if_false]
    rfl
  have taken : Reader.take (total - header.size) rest =
      (.ok (rest.take (total - header.size)), rest.drop (total - header.size)) := by
    rw [Reader.take, Octets.fewerThan_eq, if_neg]
    simp only [decide_eq_true_eq]
    omega
  have cut : (octets.take total).drop header.size = rest.take (total - header.size) := by
    rw [List.drop_take, Header.rest_of_read read]
  simp only [few, below, if_false, Nat.not_lt.mp few, Nat.not_lt.mp below, and_self, if_true, cut,
    Reader.value, taken]

theorem parse_eq_parseSliced (groups : Groups) (octets : Octets) :
    parse groups octets = parseSliced groups octets := by
  unfold parse parseSliced
  match read : Header.read octets with
  | (.error error, rest) => rfl
  | (.ok header, rest) =>
      simp only [parseBody_eq_sliceBody read]
      cases sliceBody header octets <;> rfl

theorem parseSliced_ne_overrun (groups : Groups) (octets : Octets) :
    parseSliced groups octets ≠ .error .overrun := by
  unfold parseSliced
  match read : Header.read octets with
  | (.error error, rest) => simpa using Header.guarded_read.error_ne read
  | (.ok header, rest) =>
      simp only
      split
      · nofun
      · refine bind_ne_overrun (sliceBody_ne_overrun header octets) fun body => ?_
        exact bind_ne_overrun (Element.decodeAll_ne_overrun groups body) fun elements => nofun

/-- Whatever octets arrive, they are read as a message or refused with a reason, and the elements of
a message lie between two positions inside them; whatever the value of an element is, all attributes
it is asked for are read off it or refused with a reason. -/
theorem inside_bounds (groups : Groups) (octets : Octets) (element : Element) :
    (parse groups octets = parseSliced groups octets ∧
      parseSliced groups octets ≠ .error .overrun) ∧
    (∀ attr ∈ Attribute.all, element.get attr.2 ≠ .error .overrun) ∧
    element.teid ≠ .error .overrun ∧ element.interface ≠ .error .overrun := by
  have bounded : Attribute.fteid.Bounded := Fteid.guarded_read
  have endpoint := Element.get_ne_overrun bounded element
  refine ⟨⟨parse_eq_parseSliced groups octets, parseSliced_ne_overrun groups octets⟩, ?_,
    bind_ne_overrun endpoint fun fteid => nofun, bind_ne_overrun endpoint fun fteid => nofun⟩
  exact fun attr listed => Element.get_ne_overrun (Attribute.bounded attr listed) element

theorem inside_bounds_fteid :
    let element : Element := .leaf .fteid 0 (0xC0 :: List.replicate 23 0)
    ⟨Fteid, .fteid⟩ ∈ Attribute.all ∧ element.get .fteid = .error (.tooShort 25 24) ∧
      element.get .fteid ≠ .error .overrun := by
  intro element
  have listed : ⟨Fteid, .fteid⟩ ∈ Attribute.all := by simp [Attribute.all]
  obtain ⟨_, bounded, _⟩ := inside_bounds .standard [] element
  exact ⟨listed, rfl, bounded ⟨Fteid, .fteid⟩ listed⟩

end Message

end TunnelControl
