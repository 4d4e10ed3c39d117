import GameCapturer.Framework.AddressList
import GameCapturer.Foundation.WordArithmetic

namespace GameCapturer

open Foundation Foundation.StructLoad Foundation.WordArithmetic
open Sockaddr

/-!
# Taking over a provider's address list

`Framework::BuildAddressList` turns the `SOCKET_ADDRESS_LIST` that a provider
has filled into addresses of the framework.  The lengths in the list are signed
but are compared with unsigned sizes.
-/

/-- `SOCKET_ADDRESS`: the readable bytes behind the pointer and the length. -/
structure SocketAddress where
  lpSockaddr : List UInt8
  iSockaddrLength : Int32
  deriving Repr, DecidableEq

/-- `SOCKET_ADDRESS_LIST` -/
structure SocketAddressList where
  iAddressCount : Int32
  address : List SocketAddress
  deriving Repr, DecidableEq

namespace SocketAddress

/-- `iSockaddrLength < size`, where the length is converted to `size_t`. -/
def shorterThan (entry : SocketAddress) (size : Nat) : Bool :=
  (signExtend entry.iSockaddrLength).toNat < size

/-- The checks of `BuildAddressList` on one entry. -/
def accepted? (entry : SocketAddress) : Option Bool :=
  if entry.shorterThan Sockaddr.size then
    some false
  else do
    let family ← saFamily? entry.lpSockaddr
    if family = afInet then
      return !entry.shorterThan sizeIn
    else if family = afInet6 then
      return !entry.shorterThan sizeIn6
    else
      return false

/-- A length that is the number of readable bytes. -/
def Honest (entry : SocketAddress) : Prop :=
  entry.iSockaddrLength.toInt = entry.lpSockaddr.length

instance (entry : SocketAddress) : Decidable entry.Honest :=
  inferInstanceAs (Decidable (_ = _))

/-- The struct of an entry that the framework can store. -/
def struct? (entry : SocketAddress) : Option (List UInt8) := do
  let family ← saFamily? entry.lpSockaddr
  let count ← structSize? family
  if count ≤ entry.lpSockaddr.length then
    return entry.lpSockaddr.take count
  else
    none

/-- A nonnegative length is compared as it is. -/
theorem Honest.shorterThan_eq
    {entry : SocketAddress}
    (honest : entry.Honest)
    (size : Nat) :
    entry.shorterThan size = decide (entry.lpSockaddr.length < size) := by
  unfold Honest at honest
  have extended := toNat_signExtend_of_nonneg (by omega :
    0 ≤ entry.iSockaddrLength.toInt)
  have same :
      (signExtend entry.iSockaddrLength).toNat =
        entry.lpSockaddr.length := by
    omega
  rw [shorterThan, same]

/-- An entry is stored exactly when its family is known and it is complete. -/
theorem struct?_eq_some_iff
    {entry : SocketAddress}
    {sockaddr : List UInt8} :
    entry.struct? = some sockaddr ↔
      ∃ family count,
        saFamily? entry.lpSockaddr = some family ∧
          structSize? family = some count ∧
          count ≤ entry.lpSockaddr.length ∧
          sockaddr = entry.lpSockaddr.take count := by
  cases known : saFamily? entry.lpSockaddr with
  | none =>
      simp [struct?, known]
  | some family =>
      cases sized : structSize? family with
      | none =>
          simp [struct?, known, sized]
      | some count =>
          simp [struct?, known, sized, eq_comm]

/-- An entry with an honest length is accepted if its struct is complete. -/
theorem Honest.accepted?_eq
    {entry : SocketAddress}
    (honest : entry.Honest) :
    entry.accepted? = some entry.struct?.isSome := by
  unfold accepted?
  simp only [honest.shorterThan_eq, decide_eq_true_eq]
  split
  · rename_i short
    have none : entry.struct? = none := by
      rw [Option.eq_none_iff_forall_ne_some]
      intro sockaddr stored
      obtain ⟨family, count, -, sized, long, -⟩ :=
        struct?_eq_some_iff.mp stored
      rcases structSize?_eq_some_iff.mp sized with ⟨-, rfl⟩ | ⟨-, rfl⟩
      · unfold Sockaddr.size sizeIn at *
        omega
      · unfold Sockaddr.size sizeIn6 at *
        omega
    rw [none]
    rfl
  · rename_i long
    have atLeast : 2 ≤ entry.lpSockaddr.length := by
      unfold Sockaddr.size at long
      omega
    obtain ⟨family, known⟩ :=
      Option.isSome_iff_exists.mp (saFamily?_isSome atLeast)
    unfold struct? structSize?
    simp only [known, Option.bind_eq_bind, Option.bind_some]
    by_cases inet : family = afInet
    · by_cases short : entry.lpSockaddr.length < sizeIn
      · simp [inet, short, Nat.not_le.mpr short]
      · simp [inet, short, Nat.not_lt.mp short]
    · by_cases inet6 : family = afInet6
      · by_cases short : entry.lpSockaddr.length < sizeIn6
        · simp [inet6, afInet6_ne_afInet, short,
            Nat.not_le.mpr short]
        · simp [inet6, afInet6_ne_afInet, short,
            Nat.not_lt.mp short]
      · simp [inet, inet6]

end SocketAddress

/-- A list whose count and lengths describe the readable entries. -/
structure SocketAddressList.Honest (addrList : SocketAddressList) : Prop where
  count : addrList.iAddressCount.toInt = addrList.address.length
  lengths : ∀ entry ∈ addrList.address, entry.Honest

namespace Framework

/-- The loop of `BuildAddressList` from an index on. -/
def buildAddresses?
    (provider : Nat)
    (entries : List SocketAddress)
    (heap : Nat → SockaddrInet) :
    Nat → Nat → List Address → Option (List Address)
  | 0, _, pList => some pList
  | remaining + 1, index, pList => do
      let entry ← entries[index]?
      if ← entry.accepted? then
        let address ←
          Address.construct? entry.lpSockaddr provider (heap index)
        buildAddresses? provider entries heap remaining (index + 1)
          (pList ++ [address])
      else
        buildAddresses? provider entries heap remaining (index + 1)
          pList

/--
`Framework::BuildAddressList`.  `heap` is what the objects for the single
entries held before; a fault is `none`.
-/
def buildAddressList?
    (provider : Nat)
    (addrList : SocketAddressList)
    (heap : Nat → SockaddrInet)
    (pList : List Address) : Option (List Address) :=
  buildAddresses? provider addrList.address heap
    addrList.iAddressCount.toInt.toNat 0 pList

section Table

variable
  {provider : Nat}
  {entries : List SocketAddress}
  {heap : Nat → SockaddrInet}

/-- The addresses made from some entries, for one provider. -/
structure MadeFrom
    (provider : Nat)
    (entries : List SocketAddress)
    (table : List Address) : Prop where
  structs :
    table.map Address.sockaddr = entries.filterMap SocketAddress.struct?
  provider : ∀ address ∈ table, address.provider = provider
  known : ∀ address ∈ table, address.Known

/-- Entries with honest lengths are taken over in order, and nothing else. -/
theorem buildAddresses?_of_honest
    {remaining index : Nat}
    {pList : List Address}
    (honest : ∀ entry ∈ entries, entry.Honest)
    (inside : index + remaining ≤ entries.length) :
    ∃ table,
      buildAddresses? provider entries heap remaining index pList =
          some (pList ++ table) ∧
        MadeFrom provider ((entries.drop index).take remaining)
          table := by
  induction remaining generalizing index pList with
  | zero =>
      refine ⟨[], by simp [buildAddresses?], ?_⟩
      constructor <;> simp
  | succ remaining inductionHypothesis =>
      have here : index < entries.length := by omega
      have split :
          (entries.drop index).take (remaining + 1) =
            entries[index] ::
              (entries.drop (index + 1)).take remaining := by
        rw [List.drop_eq_getElem_cons here, List.take_succ_cons]
      have own := honest _ (List.getElem_mem here)
      have next : index + 1 + remaining ≤ entries.length := by omega
      cases stored : entries[index].struct? with
      | none =>
          obtain ⟨table, built, made⟩ :=
            @inductionHypothesis (index + 1) pList next
          refine ⟨table, ?_, ?_⟩
          · simp [buildAddresses?, here, own.accepted?_eq, stored,
              built]
          · rw [split]
            refine ⟨?_, made.provider, made.known⟩
            rw [List.filterMap_cons_none stored, made.structs]
      | some sockaddr =>
          obtain ⟨family, count, known, sized, long, rfl⟩ :=
            SocketAddress.struct?_eq_some_iff.mp stored
          obtain ⟨address, constructed, owner, af, struct⟩ :=
            @Address.construct?_of_long _ provider (heap index) _ _
              known sized long
          obtain ⟨table, built, made⟩ :=
            @inductionHypothesis (index + 1) (pList ++ [address]) next
          have stores : address.Known := by
            unfold Address.Known
            rw [af]
            exact (structSize?_eq_some_iff.mp sized).imp And.left
              And.left
          refine ⟨address :: table, ?_, ?_⟩
          · simp only [buildAddresses?, List.getElem?_eq_getElem here,
              own.accepted?_eq, stored, Option.isSome_some,
              ↓reduceIte, Option.bind_eq_bind, Option.bind_some,
              constructed]
            rw [built, List.append_assoc, List.singleton_append]
          · rw [split]
            constructor
            · rw [List.filterMap_cons_some stored, List.map_cons,
                made.structs, struct]
            · exact List.forall_mem_cons.mpr ⟨owner, made.provider⟩
            · exact List.forall_mem_cons.mpr ⟨stores, made.known⟩

/-- An honest list is taken over without a fault, entry by entry. -/
theorem buildAddressList?_of_honest
    {addrList : SocketAddressList}
    (honest : addrList.Honest)
    (heap : Nat → SockaddrInet)
    (pList : List Address) :
    ∃ table,
      buildAddressList? provider addrList heap pList =
          some (pList ++ table) ∧
        MadeFrom provider addrList.address table := by
  have count :
      addrList.iAddressCount.toInt.toNat = addrList.address.length := by
    have count := honest.count
    omega
  have whole :
      0 + addrList.address.length ≤ addrList.address.length := by
    omega
  have built :=
    @buildAddresses?_of_honest provider _ heap _ 0 pList
      honest.lengths whole
  rw [List.drop_zero, List.take_length] at built
  unfold buildAddressList?
  rw [count]
  exact built

/-- An entry that was accepted gives an address of a known family. -/
theorem construct?_of_accepted
    {entry : SocketAddress}
    {initial : SockaddrInet}
    {address : Address}
    (accepted : entry.accepted? = some true)
    (constructed :
      Address.construct? entry.lpSockaddr provider initial =
        some address) :
    address.provider = provider ∧ address.Known := by
  have families := afInet6_ne_afInet
  unfold SocketAddress.accepted? at accepted
  split at accepted
  · contradiction
  · obtain ⟨family, known, checked⟩ :=
      Option.bind_eq_some_iff.mp accepted
    have sized : ∃ count, structSize? family = some count := by
      unfold structSize?
      split at checked
      · exact ⟨sizeIn, by simp_all⟩
      · split at checked
        · exact ⟨sizeIn6, by simp_all⟩
        · contradiction
    obtain ⟨count, sized⟩ := sized
    have long : count ≤ entry.lpSockaddr.length := by
      rcases structSize?_eq_some_iff.mp sized with
        ⟨rfl, rfl⟩ | ⟨rfl, rfl⟩
      · by_contra short
        simp [Address.construct?, known, read?, short] at constructed
      · by_contra short
        simp [Address.construct?, known, families, read?, short]
          at constructed
    obtain ⟨other, same, owner, af, -⟩ :=
      @Address.construct?_of_long _ provider initial _ _ known sized
        long
    rw [constructed] at same
    cases same
    refine ⟨owner, ?_⟩
    unfold Address.Known
    rw [af]
    exact (structSize?_eq_some_iff.mp sized).imp And.left And.left

/-- Whatever a provider reports, only addresses of known families are added. -/
theorem buildAddresses?_added
    {remaining index : Nat}
    {pList result : List Address}
    (built :
      buildAddresses? provider entries heap remaining index pList =
        some result) :
    ∃ table,
      result = pList ++ table ∧
        ∀ address ∈ table,
          address.provider = provider ∧ address.Known := by
  induction remaining generalizing index pList with
  | zero =>
      cases built
      exact ⟨[], by simp, by simp⟩
  | succ remaining inductionHypothesis =>
      obtain ⟨entry, -, built⟩ := Option.bind_eq_some_iff.mp built
      obtain ⟨verdict, accepted, built⟩ :=
        Option.bind_eq_some_iff.mp built
      cases verdict with
      | false =>
          exact inductionHypothesis built
      | true =>
          obtain ⟨address, constructed, built⟩ :=
            Option.bind_eq_some_iff.mp built
          obtain ⟨table, rfl, added⟩ := inductionHypothesis built
          refine ⟨address :: table, by simp, ?_⟩
          exact List.forall_mem_cons.mpr
            ⟨construct?_of_accepted accepted constructed, added⟩

end Table

/-!
### Reading back what a query delivered
-/

/-- The `SOCKET_ADDRESS_LIST` at an address of a memory. -/
def loadAddressList
    (memory : Bytes)
    (pAddressList : Nat) : SocketAddressList where
  iAddressCount := Int32.ofNat (decode memory pAddressList 4)
  address :=
    (List.range (decode memory pAddressList 4)).map fun index =>
      let entry := pAddressList + addressOffset index
      let length := decode memory (entry + 8) 4
      {
        lpSockaddr := slice memory (decode memory entry 8) length
        iSockaddrLength := Int32.ofNat length
      }

/-- The entry that stands for a stored address. -/
def entryOf (address : Address) : SocketAddress where
  lpSockaddr := address.sockaddr
  iSockaddrLength := Int32.ofNat address.sockaddrSize

/-- A delivered list is loaded as the entries of its addresses. -/
theorem load_of_delivered
    {memory after : Bytes}
    {pAddressList : Nat}
    {list : List Address}
    (delivered : Delivered memory after pAddressList list) :
    loadAddressList after pAddressList = {
      iAddressCount := Int32.ofNat list.length
      address := list.map entryOf
    } := by
  unfold loadAddressList
  rw [delivered.count]
  congr 1
  apply List.ext_getElem
  · simp
  · intro index _ inside
    have there : index < list.length := by simpa using inside
    have shape :
        list =
          list.take index ++ list[index] :: list.drop (index + 1) := by
      rw [← List.drop_eq_getElem_cons there, List.take_append_drop]
    have length : (list.take index).length = index := by
      simp [Nat.le_of_lt there]
    obtain ⟨pointer, size, bytes⟩ :=
      delivered.placed _ _ _ shape
    rw [length] at pointer size
    simp only [List.getElem_map, List.getElem_range, pointer, size,
      bytes, entryOf]

/-- The entry of a known address is honest and holds its struct. -/
theorem entryOf_spec
    {address : Address}
    (known : address.Known) :
    (entryOf address).Honest ∧
      (entryOf address).struct? = some address.sockaddr := by
  have fits := address.sockaddrSize_le
  unfold sizeIn6 at fits
  constructor
  · unfold SocketAddress.Honest entryOf
    rw [Int32.toInt_ofNat_of_lt (by omega), address.length_sockaddr]
  · apply SocketAddress.struct?_eq_some_iff.mpr
    refine ⟨address.af, address.sockaddrSize,
      address.saFamily?_sockaddr known,
      address.structSize?_of_known known, ?_, ?_⟩
    · exact Nat.le_of_eq address.length_sockaddr.symm
    · exact (List.take_of_length_le
        (Nat.le_of_eq address.length_sockaddr)).symm

/-- A delivered list of known addresses is taken over struct by struct. -/
theorem buildAddressList?_of_delivered
    {memory after : Bytes}
    {pAddressList provider : Nat}
    {list : List Address}
    (delivered : Delivered memory after pAddressList list)
    (known : ∀ address ∈ list, address.Known)
    (few : list.length ≤ intMax)
    (heap : Nat → SockaddrInet)
    (pList : List Address) :
    ∃ table,
      buildAddressList? provider (loadAddressList after pAddressList)
          heap pList =
          some (pList ++ table) ∧
        table.map Address.sockaddr = list.map Address.sockaddr ∧
        ∀ address ∈ table, address.provider = provider := by
  unfold intMax at few
  rw [load_of_delivered delivered]
  have honest :
      SocketAddressList.Honest {
        iAddressCount := Int32.ofNat list.length
        address := list.map entryOf
      } := by
    constructor
    · rw [Int32.toInt_ofNat_of_lt (by omega), List.length_map]
    · rw [List.forall_mem_map]
      exact fun address member => (entryOf_spec (known address member)).1
  obtain ⟨table, built, made⟩ :=
    buildAddressList?_of_honest honest heap pList
  refine ⟨table, built, ?_, made.provider⟩
  rw [made.structs, List.filterMap_map, ← List.filterMap_eq_map]
  apply List.filterMap_congr
  intro address member
  exact (entryOf_spec (known address member)).2

/-- Every selected address is known, and there are at most `INT_MAX`. -/
theorem listed_spec
    (ndAddrList ndV1AddrList : List Address)
    (flags : UInt32) :
    (∀ address ∈ listed ndAddrList ndV1AddrList flags, address.Known) ∧
      (listed ndAddrList ndV1AddrList flags).length ≤ intMax := by
  unfold listed counted
  constructor
  · intro address member
    exact of_decide_eq_true
      (List.mem_filter.mp (List.mem_of_mem_take member)).2
  · exact List.length_take_le _ _

/--
Asking for the size and then fetching with a buffer of that size delivers every
selected address; taking the result over gives the same structs in order.
-/
theorem fetch_after_ask
    (ndAddrList ndV1AddrList : List Address)
    (flags : UInt32)
    (memory : Bytes)
    (pAddressList provider : Nat)
    (heap : Nat → SockaddrInet)
    (nonempty : listed ndAddrList ndV1AddrList flags ≠ [])
    (addressable :
      pAddressList +
          (queryAddressList ndAddrList ndV1AddrList flags none 0
            memory).cbAddressList ≤
        2 ^ 64) :
    let asked :=
      queryAddressList ndAddrList ndV1AddrList flags none 0 memory
    let fetched :=
      queryAddressList ndAddrList ndV1AddrList flags
        (some pAddressList) asked.cbAddressList asked.memory
    asked.status = ndBufferOverflow ∧
      asked.memory = memory ∧
      fetched.status = ndSuccess ∧
      ∃ table,
        buildAddressList? provider
            (loadAddressList fetched.memory pAddressList) heap [] =
            some table ∧
          table.map Address.sockaddr =
            (listed ndAddrList ndV1AddrList flags).map
              Address.sockaddr ∧
          ∀ address ∈ table, address.provider = provider := by
  have asked :=
    (queryAddressList_spec ndAddrList ndV1AddrList flags 0 memory
      none).size nonempty (by simp)
  rw [asked] at addressable ⊢
  obtain ⟨status, -, delivered⟩ :=
    (queryAddressList_spec ndAddrList ndV1AddrList flags
      (listSize (listed ndAddrList ndV1AddrList flags)) memory
      (some pAddressList)).delivered pAddressList rfl nonempty
      (Nat.le_refl _) addressable
  obtain ⟨known, few⟩ := listed_spec ndAddrList ndV1AddrList flags
  obtain ⟨table, built, structs, owner⟩ :=
    buildAddressList?_of_delivered delivered known few heap []
  exact ⟨rfl, rfl, status, table, built, structs, owner⟩

/-- The address 10.0.0.1 with port 0. -/
def sampleV4 : Address where
  provider := 7
  addr := ⟨[2, 0, 0, 0, 10, 0, 0, 1] ++ List.replicate 20 0, rfl⟩

/-- The address ::1 with port 0. -/
def sampleV6 : Address where
  provider := 9
  addr := ⟨[23, 0] ++ List.replicate 21 0 ++ [1, 0, 0, 0, 0], rfl⟩

/-- An IPv6 and an IPv4 address are fetched and built again, in order. -/
theorem fetch_after_ask_sample :
    ∃ table,
      buildAddressList? 1
          (loadAddressList
            (queryAddressList [sampleV6] [sampleV4] 0 (some 4096) 84
              fun _ => 0).memory 4096)
          (fun _ => sampleV6.addr) [] =
          some table ∧
        table.map Address.sockaddr =
          [sampleV6.sockaddr, sampleV4.sockaddr] := by
  obtain ⟨-, -, -, table, built, structs, -⟩ :=
    fetch_after_ask [sampleV6] [sampleV4] 0 (fun _ => 0) 4096 1
      (fun _ => sampleV6.addr) (by decide) (by decide)
  exact ⟨table, built, structs⟩

end Framework

end GameCapturer
