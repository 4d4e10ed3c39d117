import GameCapturer.NetworkDirect

namespace GameCapturer

/-!
# Socket addresses of the framework

`ndaddr.cpp` keeps the address of an adapter in a 28-byte `SOCKADDR_INET`
union, and `Framework::ValidateAddress` checks the addresses that callers
pass.  A caller's address is the list of the bytes it promises to be readable;
reading behind its end faults, which is `none` below.
-/

namespace Sockaddr

/-- `AF_INET` -/
def afInet : UInt16 := 2

/-- `AF_INET6` -/
def afInet6 : UInt16 := 23

/-- The two families differ. -/
theorem afInet6_ne_afInet : afInet6 ≠ afInet := by
  decide

/-- `sizeof(struct sockaddr)` -/
def size : Nat := 16

/-- `sizeof(struct sockaddr_in)` -/
def sizeIn : Nat := 16

/-- `sizeof(struct sockaddr_in6)` -/
def sizeIn6 : Nat := 28

/-- `ULONG_MAX` -/
def ulongMax : Nat := 0xFFFFFFFF

/-- Read `count` bytes behind a pointer. -/
def read?
    (bytes : List UInt8)
    (offset count : Nat) : Option (List UInt8) :=
  if offset + count ≤ bytes.length then
    some ((bytes.drop offset).take count)
  else
    none

/-- `sa_family`, the little-endian scalar at offset 0. -/
def saFamily? (bytes : List UInt8) : Option UInt16 := do
  match ← read? bytes 0 2 with
  | [low, high] => return low.toUInt16 + high.toUInt16 <<< 8
  | _ => none

/-- `((struct sockaddr_in *)p)->sin_addr` -/
def sinAddr? (bytes : List UInt8) : Option (List UInt8) :=
  read? bytes 4 4

/-- `((struct sockaddr_in6 *)p)->sin6_addr` -/
def sin6Addr? (bytes : List UInt8) : Option (List UInt8) :=
  read? bytes 8 16

/-- The size of the struct of a family that the framework stores. -/
def structSize? (family : UInt16) : Option Nat :=
  if family = afInet then
    some sizeIn
  else if family = afInet6 then
    some sizeIn6
  else
    none

/-- The two families and their sizes. -/
theorem structSize?_eq_some_iff {family : UInt16} {count : Nat} :
    structSize? family = some count ↔
      family = afInet ∧ count = sizeIn ∨
        family = afInet6 ∧ count = sizeIn6 := by
  have families := afInet6_ne_afInet
  unfold structSize?
  by_cases inet : family = afInet
  · subst inet
    simp only [↓reduceIte, Option.some_inj, true_and, families.symm,
      false_and, or_false]
    exact eq_comm
  · by_cases inet6 : family = afInet6
    · subst inet6
      simp only [families, ↓reduceIte, Option.some_inj, false_and,
        true_and, false_or]
      exact eq_comm
    · simp [inet, inet6]

/-- Reading inside the promised bytes succeeds. -/
theorem read?_of_le
    {bytes : List UInt8}
    {offset count : Nat}
    (inside : offset + count ≤ bytes.length) :
    read? bytes offset count =
      some ((bytes.drop offset).take count) :=
  if_pos inside

/-- The family of an address is its first two bytes. -/
theorem saFamily?_cons (low high : UInt8) (rest : List UInt8) :
    saFamily? (low :: high :: rest) =
      some (low.toUInt16 + high.toUInt16 <<< 8) := by
  simp [saFamily?, read?]

/-- Every address of at least two bytes has a family. -/
theorem saFamily?_isSome
    {bytes : List UInt8}
    (long : 2 ≤ bytes.length) :
    (saFamily? bytes).isSome := by
  match bytes, long with
  | low :: high :: rest, _ =>
      rw [saFamily?_cons]
      rfl

/-- The family does not depend on what follows the first two bytes. -/
theorem saFamily?_append
    {bytes : List UInt8}
    (long : 2 ≤ bytes.length)
    (rest : List UInt8) :
    saFamily? (bytes ++ rest) = saFamily? bytes := by
  match bytes, long with
  | low :: high :: more, _ =>
      rw [List.cons_append, List.cons_append, saFamily?_cons,
        saFamily?_cons]

/-- `Framework::ValidateAddress`; `cbAddress` is the number of bytes. -/
def validate? (bytes : List UInt8) : Option HResult :=
  if bytes.length < size then
    some ndInvalidParameter2
  else if bytes.length > ulongMax then
    some ndInvalidParameter2
  else do
    let family ← saFamily? bytes
    if family = afInet then
      if bytes.length < sizeIn then
        return ndInvalidParameter2
      else
        return ndSuccess
    else if family = afInet6 then
      if bytes.length < sizeIn6 then
        return ndInvalidParameter2
      else
        return ndSuccess
    else
      return ndInvalidAddress

/-- An address of a known family with all the bytes of its struct. -/
def Valid (bytes : List UInt8) : Prop :=
  bytes.length ≤ ulongMax ∧
    (saFamily? bytes = some afInet ∧ sizeIn ≤ bytes.length ∨
      saFamily? bytes = some afInet6 ∧ sizeIn6 ≤ bytes.length)

instance (bytes : List UInt8) : Decidable (Valid bytes) :=
  inferInstanceAs (Decidable (_ ∧ _))

/-- Validation reads nothing outside the address and always answers. -/
theorem validate?_isSome (bytes : List UInt8) :
    (validate? bytes).isSome := by
  unfold validate?
  split
  · rfl
  · rename_i long
    have atLeast : 2 ≤ bytes.length := by
      unfold size at long
      omega
    obtain ⟨family, known⟩ :=
      Option.isSome_iff_exists.mp (saFamily?_isSome atLeast)
    simp only [known, Option.bind_eq_bind, Option.bind_some]
    (repeat' split) <;> rfl

/-- Validation accepts exactly the valid addresses. -/
theorem validate?_eq_success_iff (bytes : List UInt8) :
    validate? bytes = some ndSuccess ↔ Valid bytes := by
  have refused : ndInvalidParameter2 ≠ ndSuccess := by decide
  have unknown : ndInvalidAddress ≠ ndSuccess := by decide
  have families := afInet6_ne_afInet.symm
  unfold validate? Valid
  by_cases short : bytes.length < size
  · have notIn : ¬ sizeIn ≤ bytes.length := by
      unfold size sizeIn at *
      omega
    have notIn6 : ¬ sizeIn6 ≤ bytes.length := by
      unfold size sizeIn6 at *
      omega
    simp [short, refused, notIn, notIn6]
  · have atLeast : 2 ≤ bytes.length := by
      unfold size at short
      omega
    obtain ⟨family, known⟩ :=
      Option.isSome_iff_exists.mp (saFamily?_isSome atLeast)
    by_cases huge : bytes.length > ulongMax
    · simp [short, huge, refused, Nat.not_le.mpr huge]
    · simp only [short, ↓reduceIte, huge, known, Option.bind_eq_bind,
        Option.bind_some, Option.some_inj, Nat.not_lt.mp huge,
        true_and]
      by_cases v4 : family = afInet
      · subst v4
        by_cases enough : bytes.length < sizeIn
        · simp [enough, refused, families, Nat.not_le.mpr enough]
        · simp [enough, families, Nat.not_lt.mp enough]
      · by_cases v6 : family = afInet6
        · subst v6
          by_cases enough : bytes.length < sizeIn6
          · simp [v4, enough, refused, Nat.not_le.mpr enough]
          · simp [v4, enough, Nat.not_lt.mp enough]
        · simp [v4, v6, unknown]

end Sockaddr

open Sockaddr

/-- The bytes of a `SOCKADDR_INET` union. -/
structure SockaddrInet where
  bytes : List UInt8
  sized : bytes.length = sizeIn6
  deriving Repr, DecidableEq

namespace SockaddrInet

/-- `si_family` -/
def siFamily (addr : SockaddrInet) : UInt16 :=
  (saFamily? addr.bytes).get
    (saFamily?_isSome (by simp [addr.sized, sizeIn6]))

/-- `Ipv4.sin_addr` -/
def sinAddr (addr : SockaddrInet) : List UInt8 :=
  (addr.bytes.drop 4).take 4

/-- `Ipv6.sin6_addr` -/
def sin6Addr (addr : SockaddrInet) : List UInt8 :=
  (addr.bytes.drop 8).take 16

/-- Copy bytes to the start of the union; the rest keeps its contents. -/
def overwrite
    (old : SockaddrInet)
    (copied : List UInt8) : SockaddrInet where
  bytes := copied.take sizeIn6 ++ old.bytes.drop copied.length
  sized := by
    have sized := old.sized
    simp only [List.length_append, List.length_take,
      List.length_drop, sized, sizeIn6]
    omega

end SockaddrInet

/-- `NetworkDirect::Address`, with the provider object it points to. -/
structure Address where
  provider : Nat
  addr : SockaddrInet
  deriving Repr, DecidableEq

namespace Address

/--
`Address::Address`.  `heap` is what the allocated object held before: only the
bytes of the address's own struct are initialised.
-/
def construct?
    (sockaddr : List UInt8)
    (provider : Nat)
    (heap : SockaddrInet) : Option Address := do
  let family ← saFamily? sockaddr
  if family = afInet then
    let copied ← read? sockaddr 0 sizeIn
    return { provider, addr := heap.overwrite copied }
  else if family = afInet6 then
    let copied ← read? sockaddr 0 sizeIn6
    return { provider, addr := heap.overwrite copied }
  else
    -- `m_Addr.si_family = AF_UNSPEC`
    return { provider, addr := heap.overwrite [0, 0] }

/-- `Address::AF` -/
def af (address : Address) : UInt16 :=
  address.addr.siFamily

/-- `Address::Matches`: the family of the stored address is not compared. -/
def matches?
    (address : Address)
    (sockaddr : List UInt8) : Option Bool := do
  let family ← saFamily? sockaddr
  if family = afInet then
    return (← sinAddr? sockaddr) = address.addr.sinAddr
  else if family = afInet6 then
    return (← sin6Addr? sockaddr) = address.addr.sin6Addr
  else
    return false

/-- `Address::CopySockaddr`: the bytes copied, none when they do not fit. -/
def copySockaddr (address : Address) (len : Nat) : List UInt8 :=
  if address.af = afInet then
    if len < sizeIn then [] else address.addr.bytes.take sizeIn
  else if address.af = afInet6 then
    if len < sizeIn6 then [] else address.addr.bytes.take sizeIn6
  else
    []

/-- The size of the struct that the family of a stored address selects. -/
def sockaddrSize (address : Address) : Nat :=
  (structSize? address.af).getD 0

/-- A stored IPv4 or IPv6 address. -/
def Known (address : Address) : Prop :=
  address.af = afInet ∨ address.af = afInet6

instance (address : Address) : Decidable address.Known :=
  inferInstanceAs (Decidable (_ ∨ _))

/-- The struct of a stored address, as other programs receive it. -/
def sockaddr (address : Address) : List UInt8 :=
  address.addr.bytes.take address.sockaddrSize

section Copying

variable (address : Address)

/-- An IPv4 address takes the size of its struct. -/
theorem sockaddrSize_of_inet (inet : address.af = afInet) :
    address.sockaddrSize = sizeIn := by
  simp [sockaddrSize, structSize?, inet]

/-- An IPv6 address takes the size of its struct. -/
theorem sockaddrSize_of_inet6 (inet6 : address.af = afInet6) :
    address.sockaddrSize = sizeIn6 := by
  have families := afInet6_ne_afInet
  simp [sockaddrSize, structSize?, inet6, families]

/-- Exactly the known families have a struct. -/
theorem sockaddrSize_pos_iff :
    0 < address.sockaddrSize ↔ address.Known := by
  unfold sockaddrSize structSize? Known sizeIn sizeIn6
  split
  · simp_all
  · split <;> simp_all

/-- Every struct fits the union. -/
theorem sockaddrSize_le : address.sockaddrSize ≤ sizeIn6 := by
  unfold sockaddrSize structSize? sizeIn sizeIn6
  split
  · simp
  · split <;> simp

@[simp] theorem length_sockaddr :
    address.sockaddr.length = address.sockaddrSize := by
  have fits := address.sockaddrSize_le
  simp [sockaddr, address.addr.sized, fits]

/-- A known family selects its struct. -/
theorem structSize?_of_known (known : address.Known) :
    structSize? address.af = some address.sockaddrSize := by
  rcases known with inet | inet6
  · rw [address.sockaddrSize_of_inet inet, inet]
    rfl
  · rw [address.sockaddrSize_of_inet6 inet6, inet6]
    rfl

/-- The struct is copied whole or not at all. -/
theorem copySockaddr_eq (len : Nat) :
    address.copySockaddr len =
      if len < address.sockaddrSize then [] else address.sockaddr := by
  unfold copySockaddr sockaddr sockaddrSize structSize?
  split
  · rfl
  · split
    · rfl
    · simp

/-- The union starts with the struct. -/
theorem sockaddr_append :
    address.addr.bytes =
      address.sockaddr ++ address.addr.bytes.drop address.sockaddrSize :=
  (List.take_append_drop _ _).symm

end Copying

/-- The struct of a known address carries its family. -/
theorem saFamily?_sockaddr
    (address : Address)
    (known : address.Known) :
    saFamily? address.sockaddr = some address.af := by
  have long : 2 ≤ address.sockaddr.length := by
    rw [address.length_sockaddr]
    rcases structSize?_eq_some_iff.mp
        (address.structSize?_of_known known) with
      ⟨-, size⟩ | ⟨-, size⟩ <;> rw [size] <;> decide
  rw [← saFamily?_append long, ← address.sockaddr_append]
  exact (Option.some_get _).symm

section Construction

variable
  {sockaddr : List UInt8}
  {provider : Nat}
  {heap : SockaddrInet}

/-- Overwriting keeps the copied bytes in front of the old ones. -/
theorem bytes_overwrite
    {copied : List UInt8}
    (fits : copied.length ≤ sizeIn6) :
    (heap.overwrite copied).bytes =
      copied ++ heap.bytes.drop copied.length := by
  simp [SockaddrInet.overwrite, List.take_of_length_le fits]

/-- A constructed address of a copied struct keeps its family. -/
theorem af_overwrite
    {copied : List UInt8}
    {family : UInt16}
    (fits : copied.length ≤ sizeIn6)
    (long : 2 ≤ copied.length)
    (known : saFamily? copied = some family) :
    (heap.overwrite copied).siFamily = family := by
  have read : saFamily? (heap.overwrite copied).bytes = some family := by
    rw [bytes_overwrite fits, saFamily?_append long, known]
  exact Option.get_of_eq_some _ read

/--
Constructing from an address with all the bytes of its struct stores exactly
that struct.
-/
theorem construct?_of_long
    {family : UInt16}
    {count : Nat}
    (known : saFamily? sockaddr = some family)
    (sized : structSize? family = some count)
    (long : count ≤ sockaddr.length) :
    ∃ address,
      construct? sockaddr provider heap = some address ∧
        address.provider = provider ∧
        address.af = family ∧
        address.sockaddr = sockaddr.take count := by
  have copiedSize : (sockaddr.take count).length = count := by
    simpa using long
  have bounds : 2 ≤ count ∧ count ≤ sizeIn6 := by
    rcases structSize?_eq_some_iff.mp sized with ⟨-, rfl⟩ | ⟨-, rfl⟩ <;>
      decide
  have copied : read? sockaddr 0 count = some (sockaddr.take count) := by
    rw [read?_of_le (by omega), List.drop_zero]
  have constructed :
      construct? sockaddr provider heap =
        some { provider, addr := heap.overwrite (sockaddr.take count) } := by
    have families := afInet6_ne_afInet
    rcases structSize?_eq_some_iff.mp sized with
      ⟨rfl, rfl⟩ | ⟨rfl, rfl⟩
    · simp [construct?, known, copied]
    · simp [construct?, known, copied, families]
  have fits : (sockaddr.take count).length ≤ sizeIn6 := by omega
  have longCopy : 2 ≤ (sockaddr.take count).length := by omega
  have family :
      (heap.overwrite (sockaddr.take count)).siFamily = family := by
    apply af_overwrite fits longCopy
    rw [← known, ← List.take_append_drop count sockaddr,
      saFamily?_append longCopy, List.take_append_drop]
  refine ⟨_, constructed, rfl, family, ?_⟩
  simp only [Address.sockaddr, sockaddrSize, af, family, sized,
    Option.getD_some, bytes_overwrite fits, copiedSize]
  exact List.take_left' copiedSize

end Construction

end Address

/-!
### Which host an address names

The framework looks addresses up by host only: port, flow label and scope are
ignored.  `Matches` compares the bytes that the caller's family selects, so a
stored address of the other family is compared by whatever lies there.
-/

/-- A host, by its IP address. -/
inductive Host where
  | v4 (address : List UInt8)
  | v6 (address : List UInt8)
  deriving Repr, DecidableEq

/-- The host that the bytes of an address name. -/
def Sockaddr.host? (bytes : List UInt8) : Option Host := do
  let family ← saFamily? bytes
  if family = afInet then
    return .v4 (← sinAddr? bytes)
  else if family = afInet6 then
    return .v6 (← sin6Addr? bytes)
  else
    none

namespace Address

/-- The host of a stored address. -/
def host? (address : Address) : Option Host :=
  Sockaddr.host? address.addr.bytes

/-- A stored address of another family with the compared bytes. -/
def Crossed
    (address : Address)
    (sockaddr : List UInt8) : Prop :=
  saFamily? sockaddr = some afInet ∧ address.af ≠ afInet ∧
      sinAddr? sockaddr = some address.addr.sinAddr ∨
    saFamily? sockaddr = some afInet6 ∧ address.af ≠ afInet6 ∧
      sin6Addr? sockaddr = some address.addr.sin6Addr

instance (address : Address) (sockaddr : List UInt8) :
    Decidable (address.Crossed sockaddr) :=
  inferInstanceAs (Decidable (_ ∨ _))

variable (address : Address)

/-- The family of a stored address is in its first bytes. -/
theorem saFamily?_bytes :
    saFamily? address.addr.bytes = some address.af :=
  (Option.some_get _).symm

/-- A stored IPv4 address names its `sin_addr`. -/
theorem host?_of_inet (family : address.af = afInet) :
    address.host? = some (.v4 address.addr.sinAddr) := by
  have inside : 4 + 4 ≤ address.addr.bytes.length := by
    simp [address.addr.sized, sizeIn6]
  simp [host?, Sockaddr.host?, saFamily?_bytes, family, sinAddr?,
    read?_of_le inside, SockaddrInet.sinAddr]

/-- A stored IPv6 address names its `sin6_addr`. -/
theorem host?_of_inet6 (family : address.af = afInet6) :
    address.host? = some (.v6 address.addr.sin6Addr) := by
  have inside : 8 + 16 ≤ address.addr.bytes.length := by
    simp [address.addr.sized, sizeIn6]
  have families := afInet6_ne_afInet
  simp [host?, Sockaddr.host?, saFamily?_bytes, family, families,
    sin6Addr?, read?_of_le inside, SockaddrInet.sin6Addr]

/-- A stored address of an unknown family names no host. -/
theorem host?_of_unknown
    (notInet : address.af ≠ afInet)
    (notInet6 : address.af ≠ afInet6) :
    address.host? = none := by
  simp [host?, Sockaddr.host?, saFamily?_bytes, notInet, notInet6]

/-- Only a stored IPv4 address names an IPv4 host. -/
theorem host?_eq_v4_iff (bytes : List UInt8) :
    address.host? = some (.v4 bytes) ↔
      address.af = afInet ∧ bytes = address.addr.sinAddr := by
  by_cases inet : address.af = afInet
  · simp [host?_of_inet address inet, inet, eq_comm]
  · by_cases inet6 : address.af = afInet6
    · simp [host?_of_inet6 address inet6, inet]
    · simp [host?_of_unknown address inet inet6, inet]

/-- Only a stored IPv6 address names an IPv6 host. -/
theorem host?_eq_v6_iff (bytes : List UInt8) :
    address.host? = some (.v6 bytes) ↔
      address.af = afInet6 ∧ bytes = address.addr.sin6Addr := by
  have families := afInet6_ne_afInet.symm
  by_cases inet : address.af = afInet
  · simp [host?_of_inet address inet, inet, families]
  · by_cases inet6 : address.af = afInet6
    · simp [host?_of_inet6 address inet6, inet6, eq_comm]
    · simp [host?_of_unknown address inet inet6, inet6]

/--
A valid address matches a stored one without reading outside it, exactly when
both name the same host or a stored address of another family happens to hold
the compared bytes.
-/
theorem matches?_of_valid
    {sockaddr : List UInt8}
    (valid : Valid sockaddr) :
    ∃ answer,
      address.matches? sockaddr = some answer ∧
        (answer = true ↔
          address.host? = Sockaddr.host? sockaddr ∨
            address.Crossed sockaddr) := by
  have families := afInet6_ne_afInet
  rcases valid.2 with ⟨inet, enough⟩ | ⟨inet6, enough⟩
  · have inside : 4 + 4 ≤ sockaddr.length := by
      unfold sizeIn at enough
      omega
    have read := read?_of_le inside
    have host :
        Sockaddr.host? sockaddr =
          some (.v4 ((sockaddr.drop 4).take 4)) := by
      simp [Sockaddr.host?, inet, sinAddr?, read]
    refine ⟨(sockaddr.drop 4).take 4 = address.addr.sinAddr, ?_, ?_⟩
    · simp [matches?, inet, sinAddr?, read]
    · rw [host, host?_eq_v4_iff, decide_eq_true_iff]
      simp only [Crossed, inet, sinAddr?, read, Option.some_inj,
        families.symm, true_and, false_and, or_false]
      tauto
  · have inside : 8 + 16 ≤ sockaddr.length := by
      unfold sizeIn6 at enough
      omega
    have read := read?_of_le inside
    have host :
        Sockaddr.host? sockaddr =
          some (.v6 ((sockaddr.drop 8).take 16)) := by
      simp [Sockaddr.host?, inet6, families, sin6Addr?, read]
    refine ⟨(sockaddr.drop 8).take 16 = address.addr.sin6Addr, ?_, ?_⟩
    · simp [matches?, inet6, families, sin6Addr?, read]
    · rw [host, host?_eq_v6_iff, decide_eq_true_iff]
      simp only [Crossed, inet6, sin6Addr?, read, Option.some_inj,
        families, true_and, false_and, false_or]
      tauto

end Address

end GameCapturer
