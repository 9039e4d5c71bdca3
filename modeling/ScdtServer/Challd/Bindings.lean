import ScdtServer.Challd.Ports

/-!
# The bindings of a list of mappings

Docker is given a map from container ports to lists of host bindings, but each
list has a single element: mappings of one container port to several host ports
are accepted by the reader, and the last of them replaces the others.
-/

namespace ScdtServer.Bindings

open ScdtServer.ByteReader
open ScdtServer.Ports
open ScdtServer.Collect

variable {mappings : PortMappings} {addr : Option UInt8}

/-! ## What the reader accepts -/

/-- The mappings have been read from some stream. -/
def Accepted (mappings : PortMappings) : Prop :=
  ∃ input closed rest, read.run input closed = .finished (some mappings) rest

/-- The reader asks for nothing but fewer than ten mappings. -/
theorem accepted_iff : Accepted mappings ↔ mappings.length < 10 := by
  constructor
  · intro haccepted
    obtain ⟨input, closed, rest, hrun⟩ := haccepted
    exact (read_eq_some hrun).1
  · intro hfew
    exact ⟨portSection mappings ++ [], true, [], reads_portSection hfew [] true⟩

/-! ## What the map contains -/

/-- The key of a mapping in the map. -/
def containerPort (mapping : PortMapping) : String :=
  mapping.portType.asString mapping.fromPort

/-- The binding that a mapping asks for. -/
def binding (addr : Option UInt8) (mapping : PortMapping) : PortBinding where
  hostIp := some (hostIp addr)
  hostPort := some (mapping.portType.asString mapping.toPort)

/-- The map has a binding under a key. -/
def Contains (hashmap : HashMap String (Option (List PortBinding))) (key : String)
    (binding : PortBinding) : Prop :=
  ∃ bindings, hashmap.lookup key = some (some bindings) ∧ binding ∈ bindings

/-- Every mapping is in the map, and nothing else is. -/
structure Keeps (mappings : PortMappings)
    (hashmap : HashMap String (Option (List PortBinding))) : Prop where
  kept : ∀ mapping ∈ mappings, ∃ binding,
    Contains hashmap (mapping.portType.asString mapping.fromPort) binding ∧
      binding.hostPort = some (mapping.portType.asString mapping.toPort)
  only : ∀ key binding, Contains hashmap key binding → ∃ mapping ∈ mappings,
    key = mapping.portType.asString mapping.fromPort ∧
      binding.hostPort = some (mapping.portType.asString mapping.toPort)

/-- The map is filled by the loop over the mappings. -/
theorem intoHashmap_eq (mappings : PortMappings) (addr : Option UInt8) :
    intoHashmap mappings addr =
      collect containerPort (fun mapping => some [binding addr mapping]) mappings := rfl

/-- Every list in the map is that of a single mapping. -/
theorem exists_of_lookup {key : String} {bindings : Option (List PortBinding)}
    (hlookup : (intoHashmap mappings addr).lookup key = some bindings) :
    ∃ mapping ∈ mappings,
      containerPort mapping = key ∧ some [binding addr mapping] = bindings := by
  rw [intoHashmap_eq] at hlookup
  exact exists_of_lookup_collect hlookup

/-- A binding in the map is found there alone. -/
theorem contains_intoHashmap {key : String} {found : PortBinding} :
    Contains (intoHashmap mappings addr) key found ↔
      (intoHashmap mappings addr).lookup key = some (some [found]) := by
  constructor
  · intro hcontains
    obtain ⟨bindings, hlookup, hmem⟩ := hcontains
    obtain ⟨mapping, _, _, hvalue⟩ := exists_of_lookup hlookup
    rw [hlookup]
    rw [← Option.some.inj hvalue] at hmem ⊢
    rw [List.mem_singleton.mp hmem]
  · intro hlookup
    exact ⟨[found], hlookup, List.mem_singleton_self found⟩

/-- What is in the map comes from a mapping. -/
theorem exists_mapping {key : String} {found : PortBinding}
    (hcontains : Contains (intoHashmap mappings addr) key found) :
    ∃ mapping ∈ mappings, containerPort mapping = key ∧ binding addr mapping = found := by
  have hlookup := contains_intoHashmap.mp hcontains
  obtain ⟨mapping, hmem, hkey, hvalue⟩ := exists_of_lookup hlookup
  exact ⟨mapping, hmem, hkey, List.singleton_injective (Option.some.inj hvalue)⟩

/-! ## When no mapping is dropped -/

/-- No container port is mapped to two host ports. -/
def SingleHostPorts (mappings : PortMappings) : Prop :=
  ∀ first ∈ mappings, ∀ second ∈ mappings,
    first.fromPort = second.fromPort → first.portType = second.portType →
      first.toPort = second.toPort

/-- Just in that case the insertions under one key agree. -/
theorem agree_iff (mappings : PortMappings) (addr : Option UInt8) :
    Agree containerPort (fun mapping => some [binding addr mapping]) mappings ↔
      SingleHostPorts mappings := by
  constructor
  · intro hagree first hfirst second hsecond hfrom htype
    have hkeys : containerPort first = containerPort second :=
      PortType.asString_inj.mpr ⟨hfrom, htype⟩
    have hbindings := hagree first hfirst second hsecond hkeys
    have hports := congrArg PortBinding.hostPort
      (List.singleton_injective (Option.some.inj hbindings))
    exact (PortType.asString_inj.mp (Option.some.inj hports)).1
  · intro hsingle first hfirst second hsecond hkeys
    obtain ⟨hfrom, htype⟩ := PortType.asString_inj.mp hkeys
    have hto := hsingle first hfirst second hsecond hfrom htype
    show some [binding addr first] = some [binding addr second]
    rw [binding, binding, htype, hto]

/-- Then every mapping has its binding in the map, and only then. -/
theorem all_found_iff (mappings : PortMappings) (addr : Option UInt8) :
    (∀ mapping ∈ mappings, (intoHashmap mappings addr).lookup (containerPort mapping) =
      some (some [binding addr mapping])) ↔ SingleHostPorts mappings := by
  rw [intoHashmap_eq, all_found_iff_agree, agree_iff]

/-- A mapping that is kept has its binding under its key. -/
theorem lookup_of_kept (hkeeps : Keeps mappings (intoHashmap mappings addr))
    {mapping : PortMapping} (hmem : mapping ∈ mappings) :
    (intoHashmap mappings addr).lookup (containerPort mapping) =
      some (some [binding addr mapping]) := by
  obtain ⟨found, hcontains, hport⟩ := hkeeps.kept mapping hmem
  obtain ⟨other, _, _, hfound⟩ := exists_mapping hcontains
  have hsame : found = binding addr mapping := by
    rw [← hfound] at hport ⊢
    exact congrArg (PortBinding.mk (some (hostIp addr))) hport
  rw [← hsame]
  exact contains_intoHashmap.mp hcontains

theorem singleHostPorts_of_keeps (hkeeps : Keeps mappings (intoHashmap mappings addr)) :
    SingleHostPorts mappings := by
  apply (all_found_iff mappings addr).mp
  intro mapping hmem
  exact lookup_of_kept hkeeps hmem

/-- The map that Docker is given keeps all the mappings, whatever the address, just
in case no container port is mapped to two host ports. -/
theorem mappings_kept (mappings : PortMappings) (addr : Option UInt8) :
    Keeps mappings (intoHashmap mappings addr) ↔ SingleHostPorts mappings := by
  constructor
  · exact singleHostPorts_of_keeps
  · intro hsingle
    have hfound := (all_found_iff mappings addr).mpr hsingle
    constructor
    · intro mapping hmem
      exact ⟨binding addr mapping, contains_intoHashmap.mpr (hfound mapping hmem), rfl⟩
    · intro key found hcontains
      obtain ⟨mapping, hmem, hkey, hbinding⟩ := exists_mapping hcontains
      exact ⟨mapping, hmem, hkey.symm, congrArg PortBinding.hostPort hbinding.symm⟩

/-! ## One container port, two host ports -/

def twoHostPorts : PortMappings := [⟨80, 8080, .tcp⟩, ⟨80, 8081, .tcp⟩]

/-- The first of two mappings is dropped. -/
theorem first_mapping_dropped :
    ¬ ∀ mappings addr, Accepted mappings → Keeps mappings (intoHashmap mappings addr) := by
  intro hclaim
  have haccepted : Accepted twoHostPorts := accepted_iff.mpr (by decide)
  have hsingle := singleHostPorts_of_keeps (hclaim twoHostPorts none haccepted)
  have hsame : (8080 : UInt16) = 8081 :=
    hsingle ⟨80, 8080, .tcp⟩ (by decide) ⟨80, 8081, .tcp⟩ (by decide) rfl rfl
  exact absurd hsame (by decide)

end ScdtServer.Bindings
