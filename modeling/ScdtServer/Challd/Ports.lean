import ScdtServer.Core.ByteReader
import ScdtServer.Core.Collect

/-!
# Port mappings of a request

The daemon reads at most nine port mappings and hands them to Docker as a map
from container ports to host bindings.
-/

namespace ScdtServer.Ports

open ScdtServer.ByteReader
open ScdtServer.Collect

inductive PortType
  | tcp
  | udp
  deriving DecidableEq

def PortType.asString (portType : PortType) (port : UInt16) : String :=
  match portType with
  | .tcp => s!"{port}/tcp"
  | .udp => s!"{port}/udp"

structure PortMapping where
  fromPort : UInt16
  toPort : UInt16
  portType : PortType
  deriving DecidableEq

abbrev PortMappings := List PortMapping

/-- The type byte of a mapping; any other byte is refused. -/
def readPortType : Reader (Option PortType) := do
  let some tag ← readU8 | return none
  if tag = 0 then return some .tcp
  else if tag = 1 then return some .udp
  else return none

def readMapping : Reader (Option PortMapping) := do
  let some fromPort ← readU16Le | return none
  let some toPort ← readU16Le | return none
  let some portType ← readPortType | return none
  return some ⟨fromPort, toPort, portType⟩

/-- The loop of `PortMappings::read`, pushing onto the mappings read so far. -/
def readMappings (mappings : PortMappings) : ℕ → Reader (Option PortMappings)
  | 0 => return some mappings
  | count + 1 => do
      let some mapping ← readMapping | return none
      readMappings (mappings ++ [mapping]) count

/-- `PortMappings::read`. -/
def read : Reader (Option PortMappings) := do
  let some numMappings ← readU8 | return none
  if numMappings ≥ 10 then return none
  else readMappings [] numMappings.toNat

structure PortBinding where
  hostIp : Option String
  hostPort : Option String
  deriving DecidableEq

/-- The standard library's `HashMap`: one value for each key, in no particular
order. -/
abbrev HashMap (K V : Type) := AList fun _ : K => V

def hostIp : Option UInt8 → String
  | some addr => s!"10.4.2.{addr}"
  | none => "0.0.0.0"

/-- `PortMappings::into_hashmap`.  A later mapping of the same container port
replaces an earlier one. -/
def intoHashmap (mappings : PortMappings) (addr : Option UInt8) :
    HashMap String (Option (List PortBinding)) :=
  mappings.foldl (fun hashmap mapping =>
    let binding : PortBinding :=
      { hostIp := some (hostIp addr)
        hostPort := some (mapping.portType.asString mapping.toPort) }
    hashmap.insert (mapping.portType.asString mapping.fromPort) (some [binding])) ∅

/-! ## The wire format of mappings -/

def PortType.tag : PortType → UInt8
  | .tcp => 0
  | .udp => 1

/-- Five bytes: two little-endian ports and the type byte. -/
def PortMapping.bytes (mapping : PortMapping) : List UInt8 :=
  leBytes 2 mapping.fromPort.toNat ++ leBytes 2 mapping.toPort.toNat ++
    [mapping.portType.tag]

/-- The port section of a request: the number of mappings, then each of them. -/
def portSection (mappings : PortMappings) : List UInt8 :=
  UInt8.ofNat mappings.length :: mappings.flatMap PortMapping.bytes

theorem reads_portType (portType : PortType) :
    Reads readPortType [portType.tag] (some portType) := by
  apply (reads_readU8 portType.tag).bind_done
  cases portType <;> rfl

theorem reads_mapping (mapping : PortMapping) :
    Reads readMapping mapping.bytes (some mapping) := by
  unfold readMapping PortMapping.bytes
  rw [List.append_assoc]
  apply (reads_readU16Le mapping.fromPort).bind
  apply (reads_readU16Le mapping.toPort).bind
  exact (reads_portType mapping.portType).bind_done rfl

theorem reads_mappings (before mappings : PortMappings) :
    Reads (readMappings before mappings.length) (mappings.flatMap PortMapping.bytes)
      (some (before ++ mappings)) := by
  induction mappings generalizing before with
  | nil =>
      rw [List.append_nil]
      exact Reads.done _
  | cons mapping mappings ih =>
      have htail := ih (before ++ [mapping])
      rw [List.append_assoc, List.singleton_append] at htail
      exact (reads_mapping mapping).bind htail

/-- The reader gives back every port section of fewer than ten mappings. -/
theorem reads_portSection {mappings : PortMappings} (hlength : mappings.length < 10) :
    Reads read (portSection mappings) (some mappings) := by
  have hcount : (UInt8.ofNat mappings.length).toNat = mappings.length := by
    rw [UInt8.toNat_ofNat']
    omega
  apply (reads_readU8 (UInt8.ofNat mappings.length)).bind
  have hsmall : ¬ UInt8.ofNat mappings.length ≥ 10 := by
    rw [ge_iff_le, UInt8.le_iff_toNat_le, hcount]
    simpa using hlength
  simp only [if_neg hsmall, hcount]
  exact reads_mappings [] mappings

/-! ## What the reader accepts -/

theorem readPortType_eq_some {input rest : List UInt8} {closed : Bool}
    {portType : PortType}
    (hrun : readPortType.run input closed = .finished (some portType) rest) :
    input = portType.tag :: rest := by
  rcases Reader.run_bind_eq_finished hrun with ⟨read, middle, hread, hrest⟩
  cases read with
  | none => simp at hrest
  | some tag =>
      rw [readU8_eq_some hread]
      by_cases htcp : tag = 0
      · simp only [if_pos htcp, Reader.pure_eq_done, Reader.run_done] at hrest
        cases hrest
        rw [htcp]
        rfl
      · by_cases hudp : tag = 1
        · simp only [if_neg htcp, if_pos hudp, Reader.pure_eq_done,
            Reader.run_done] at hrest
          cases hrest
          rw [hudp]
          rfl
        · simp [if_neg htcp, if_neg hudp] at hrest

theorem readMapping_eq_some {input rest : List UInt8} {closed : Bool}
    {mapping : PortMapping}
    (hrun : readMapping.run input closed = .finished (some mapping) rest) :
    input = mapping.bytes ++ rest := by
  rcases Reader.run_bind_eq_finished hrun with ⟨fromPort, afterFrom, hfrom, hrun⟩
  cases fromPort with
  | none => simp at hrun
  | some fromPort =>
      rcases Reader.run_bind_eq_finished hrun with ⟨toPort, afterTo, hto, hrun⟩
      cases toPort with
      | none => simp at hrun
      | some toPort =>
          rcases Reader.run_bind_eq_finished hrun with ⟨portType, last, htype, hdone⟩
          cases portType with
          | none => simp at hdone
          | some portType =>
              cases hdone
              rw [readU16Le_eq_some hfrom, readU16Le_eq_some hto,
                readPortType_eq_some htype]
              simp [PortMapping.bytes]

theorem readMappings_eq_some {count : ℕ} {before mappings : PortMappings}
    {input rest : List UInt8} {closed : Bool}
    (hrun : (readMappings before count).run input closed =
      .finished (some mappings) rest) :
    ∃ new, mappings = before ++ new ∧ new.length = count ∧
      input = new.flatMap PortMapping.bytes ++ rest := by
  induction count generalizing before input with
  | zero =>
      cases hrun
      exact ⟨[], by simp, rfl, by simp⟩
  | succ count ih =>
      rcases Reader.run_bind_eq_finished hrun with ⟨mapping, middle, hmapping, hrun⟩
      cases mapping with
      | none => simp at hrun
      | some mapping =>
          rcases ih hrun with ⟨new, hnew, hlength, hmiddle⟩
          refine ⟨mapping :: new, ?_, ?_, ?_⟩
          · simpa using hnew
          · simpa using hlength
          · rw [readMapping_eq_some hmapping, hmiddle]
            simp

/-- The reader accepts nothing but port sections of fewer than ten mappings. -/
theorem read_eq_some {mappings : PortMappings} {input rest : List UInt8}
    {closed : Bool} (hrun : read.run input closed = .finished (some mappings) rest) :
    mappings.length < 10 ∧ input = portSection mappings ++ rest := by
  rcases Reader.run_bind_eq_finished hrun with ⟨count, middle, hcount, hrun⟩
  cases count with
  | none => simp at hrun
  | some count =>
      by_cases hlarge : count ≥ 10
      · simp [if_pos hlarge] at hrun
      · simp only [if_neg hlarge] at hrun
        rcases readMappings_eq_some hrun with ⟨new, hnew, hlength, hmiddle⟩
        rw [List.nil_append] at hnew
        subst hnew
        have hbound : mappings.length < 10 := by
          rw [ge_iff_le, UInt8.le_iff_toNat_le, ← hlength] at hlarge
          simpa using hlarge
        refine ⟨hbound, ?_⟩
        rw [readU8_eq_some hcount, hmiddle, portSection, hlength]
        simp

/-! ## Where the reader waits -/

/-- The bytes that a reader waits on are the beginning of a mapping. -/
theorem exists_mapping_of_waits {input : List UInt8}
    (hrun : readMapping.run input false = .waiting) :
    ∃ (mapping : PortMapping) (more : List UInt8), more ≠ [] ∧
      mapping.bytes = input ++ more := by
  rcases Reader.waits_bind hrun with hfrom | ⟨fromPort, afterFrom, hfrom, hrun⟩
  · obtain ⟨fromPort, more, hmore, hbytes⟩ :=
      exists_leBytes_u16 (length_lt_of_waits_map hfrom)
    refine ⟨⟨fromPort, 0, .tcp⟩, more ++ (leBytes 2 0 ++ [PortType.tcp.tag]), ?_, ?_⟩
    · exact List.append_ne_nil_of_left_ne_nil hmore _
    · simp [PortMapping.bytes, hbytes]
  cases fromPort with
  | none => cases hrun
  | some fromPort =>
      rw [readU16Le_eq_some hfrom]
      rcases Reader.waits_bind hrun with hto | ⟨toPort, afterTo, hto, hrun⟩
      · obtain ⟨toPort, more, hmore, hbytes⟩ :=
          exists_leBytes_u16 (length_lt_of_waits_map hto)
        refine ⟨⟨fromPort, toPort, .tcp⟩, more ++ [PortType.tcp.tag], ?_, ?_⟩
        · exact List.append_ne_nil_of_left_ne_nil hmore _
        · simp [PortMapping.bytes, hbytes]
      cases toPort with
      | none => cases hrun
      | some toPort =>
          rw [readU16Le_eq_some hto]
          rcases Reader.waits_bind hrun with htype | ⟨portType, last, htype, hdone⟩
          · -- only the type byte is missing
            have hlt : afterTo.length < 1 := by
              rcases Reader.waits_bind htype with htag | ⟨tag, rest, htag, hdone⟩
              · exact length_lt_of_waits_map htag
              · cases tag with
                | none => cases hdone
                | some tag =>
                    simp only at hdone
                    split_ifs at hdone <;> cases hdone
            rw [List.length_eq_zero_iff.mp (Nat.lt_one_iff.mp hlt), List.append_nil]
            exact ⟨⟨fromPort, toPort, .tcp⟩, [PortType.tcp.tag], by simp, rfl⟩
          · cases portType <;> cases hdone

theorem exists_mappings_of_waits {count : ℕ} {before : PortMappings} {input : List UInt8}
    (hrun : (readMappings before count).run input false = .waiting) :
    ∃ (mappings : PortMappings) (more : List UInt8), mappings.length = count ∧ more ≠ [] ∧
      mappings.flatMap PortMapping.bytes = input ++ more := by
  induction count generalizing before input with
  | zero => cases hrun
  | succ count ih =>
      rcases Reader.waits_bind hrun with hmapping | ⟨mapping, middle, hmapping, hrun⟩
      · obtain ⟨mapping, more, hmore, hbytes⟩ := exists_mapping_of_waits hmapping
        refine ⟨mapping :: List.replicate count mapping,
          more ++ (List.replicate count mapping).flatMap PortMapping.bytes, by simp, ?_, ?_⟩
        · exact List.append_ne_nil_of_left_ne_nil hmore _
        · rw [List.flatMap_cons, hbytes, List.append_assoc]
      · cases mapping with
        | none => cases hrun
        | some mapping =>
            obtain ⟨mappings, more, hlength, hmore, hbytes⟩ := ih hrun
            refine ⟨mapping :: mappings, more, by simp [hlength], hmore, ?_⟩
            rw [List.flatMap_cons, hbytes, readMapping_eq_some hmapping, List.append_assoc]

/-- On an open stream the reader waits only for the rest of a port section. -/
theorem exists_portSection_of_waits {input : List UInt8}
    (hrun : read.run input false = .waiting) :
    ∃ (mappings : PortMappings) (more : List UInt8), mappings.length < 10 ∧ more ≠ [] ∧
      portSection mappings = input ++ more := by
  rcases Reader.waits_bind hrun with hcount | ⟨count, middle, hcount, hrun⟩
  · have hlt := length_lt_of_waits_map hcount
    rw [List.length_eq_zero_iff.mp (Nat.lt_one_iff.mp hlt)]
    exact ⟨[], [0], by decide, by simp, rfl⟩
  · cases count with
    | none => cases hrun
    | some count =>
        by_cases hlarge : count ≥ 10
        · simp [if_pos hlarge] at hrun
        · simp only [if_neg hlarge] at hrun
          obtain ⟨mappings, more, hlength, hmore, hbytes⟩ := exists_mappings_of_waits hrun
          refine ⟨mappings, more, ?_, hmore, ?_⟩
          · rw [ge_iff_le, UInt8.le_iff_toNat_le, ← hlength] at hlarge
            simpa using hlarge
          · rw [readU8_eq_some hcount, portSection, hbytes, hlength]
            simp

/-! ## Docker's port bindings -/

/-- The key of a port tells its number and its type. -/
theorem PortType.asString_inj {first second : PortType} {port other : UInt16} :
    first.asString port = second.asString other ↔ port = other ∧ first = second := by
  have hdiffer : ∀ left right : String, left ++ "/tcp" ≠ right ++ "/udp" := by
    intro left right heq
    have hlists := congrArg String.toList heq
    have htcp : "/tcp".toList = ['/', 't', 'c', 'p'] := by simp
    have hudp : "/udp".toList = ['/', 'u', 'd', 'p'] := by simp
    rw [String.toList_append, String.toList_append, htcp, hudp] at hlists
    have htails := (List.append_inj' hlists rfl).2
    exact absurd htails (by decide)
  have hnumbers : ∀ tail : String, toString port ++ tail = toString other ++ tail →
      port = other := by
    intro tail heq
    exact UInt16.toNat_inj.mp (Nat.repr_injective ((String.append_left_inj tail).mp heq))
  constructor
  · intro heq
    cases first with
    | tcp =>
        cases second with
        | tcp => exact ⟨hnumbers _ heq, rfl⟩
        | udp => exact absurd heq (hdiffer _ _)
    | udp =>
        cases second with
        | tcp => exact absurd heq.symm (hdiffer _ _)
        | udp => exact ⟨hnumbers _ heq, rfl⟩
  · intro hboth
    rw [hboth.1, hboth.2]

/-! ## The end of the stream -/

theorem givesUp_readPortType : readPortType.GivesUp (· = none) := by
  apply (givesUp_map_readExact 1 _).bind
  · rintro _ rfl
    rfl
  · intro tag
    cases tag with
    | none => trivial
    | some tag =>
        show (if tag = 0 then _ else _ : Reader (Option PortType)).GivesUp _
        split_ifs <;> trivial

theorem givesUp_readMapping : readMapping.GivesUp (· = none) := by
  apply (givesUp_map_readExact 2 _).bind
  · rintro _ rfl
    rfl
  intro fromPort
  cases fromPort with
  | none => trivial
  | some fromPort =>
      apply (givesUp_map_readExact 2 _).bind
      · rintro _ rfl
        rfl
      intro toPort
      cases toPort with
      | none => trivial
      | some toPort =>
          apply givesUp_readPortType.bind
          · rintro _ rfl
            rfl
          · intro portType
            cases portType <;> trivial

theorem givesUp_readMappings (mappings : PortMappings) (count : ℕ) :
    (readMappings mappings count).GivesUp (· = none) := by
  induction count generalizing mappings with
  | zero => trivial
  | succ count ih =>
      apply givesUp_readMapping.bind
      · rintro _ rfl
        rfl
      · intro mapping
        cases mapping with
        | none => trivial
        | some mapping => exact ih _

/-- A port section that the stream cuts short is refused. -/
theorem givesUp_read : read.GivesUp (· = none) := by
  apply (givesUp_map_readExact 1 _).bind
  · rintro _ rfl
    rfl
  intro numMappings
  cases numMappings with
  | none => trivial
  | some numMappings =>
      show (if numMappings ≥ 10 then _ else _ : Reader (Option PortMappings)).GivesUp _
      split_ifs
      · trivial
      · exact givesUp_readMappings [] _

end ScdtServer.Ports
