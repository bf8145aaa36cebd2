import Hypeman.AutoStandby.Connections
import Hypeman.Foundations.Records
import Hypeman.Foundations.Words

/-!
# Decoding connection tracking events

The kernel reports an entry of its connection tracking table as a tree of netlink attributes
(`lib/autostandby/conntrack_events_linux.go`). An attribute is a length and a type of 16 bits each
and a payload, padded to a multiple of four bytes; the payload of a nested one is a sequence of
attributes.

* `readNfAttr`, `parseTuple`, …, `connectionFromRawData`: the decoder.
* `Level`, `Tree`: the well-formed trees, with their attributes in any order and any others among
  them, and `Tree.encode`, their bytes.
* `connectionFromRawData_encode`: the decoder returns the connection of a tree exactly if its
  addresses are of IPv4 and no sequence ends in an attribute without payload.
* `trailing_empty_and_ipv6`: it fails on an attribute without payload at the end of a sequence, and
  does not return a connection of IPv6.
-/

namespace Hypeman.AutoStandby.Conntrack

open Foundations

/-! ## Addresses and states -/

/-- A valid `netip.Addr` without a zone. -/
inductive Addr
  | v4 (a b c d : UInt8)
  | v6 (bytes : { ip : List UInt8 // ip.length = 16 })
deriving DecidableEq

/-- `netip.Addr.Unmap`: an IPv4 address in IPv6 notation. -/
def Addr.Unmap : Addr → Addr
  | .v6 ⟨[0, 0, 0, 0, 0, 0, 0, 0, 0, 0, 0xff, 0xff, a, b, c, d], _⟩ => .v4 a b c d
  | addr => addr

def addrFromIP : List UInt8 → Option Addr
  | [a, b, c, d] => some (.v4 a b c d)
  | ip => if h : ip.length = 16 then some (Addr.v6 ⟨ip, h⟩).Unmap else none

/-- The conversion `TCPState(number)`. -/
def tcpState (number : UInt8) : TCPState :=
  match number.toNat with
  | 0 => .none
  | 1 => .synSent
  | 2 => .synRecv
  | 3 => .established
  | 4 => .finWait
  | 5 => .closeWait
  | 6 => .lastAck
  | 7 => .timeWait
  | 8 => .close
  | 9 => .listen
  | 10 => .ignore
  | 11 => .retrans
  | n => .other n

/-! ## Attributes -/

/-- The byte order of the host. -/
inductive Endian
  | little
  | big
deriving DecidableEq

/-- `ByteOrder.Uint16`. -/
def Endian.uint16 : Endian → UInt8 → UInt8 → UInt16
  | .little, a, b => UInt16.ofNat (a.toNat + 256 * b.toNat)
  | .big, a, b => UInt16.ofNat (256 * a.toNat + b.toNat)

/-- `binary.Read` of an `uint16`. -/
def readUint16 (e : Endian) : List UInt8 → Except String (UInt16 × List UInt8)
  | [] => .error "EOF"
  | [_] => .error "unexpected EOF"
  | a :: b :: reader => .ok (e.uint16 a b, reader)

def SizeofNfgenmsg : Nat := 4

def SizeofNfattr : Nat := 4

def NLA_ALIGNTO : UInt16 := 4

def NLA_F_NESTED : UInt16 := 0x8000

def NLA_TYPE_MASK : UInt16 := 0x3fff

def nlaAlignedLen (length : UInt16) : UInt16 := (length + NLA_ALIGNTO - 1) &&& ~~~(NLA_ALIGNTO - 1)

structure NfAttr where
  typ : UInt16
  nested : Bool
  payload : List UInt8
deriving DecidableEq

/-- `(*bytes.Reader).Read` into a slice of `n` zeros. -/
def readPayload (n : Nat) (reader : List UInt8) : Except String (List UInt8 × List UInt8) :=
  if reader = [] then .error "EOF"
  else .ok (reader.take n ++ List.replicate (n - reader.length) 0, reader.drop n)

/-- `readNfAttr`. Seeking beyond the end leaves nothing to read. -/
def readNfAttr (e : Endian) (reader : List UInt8) : Except String (NfAttr × List UInt8) := do
  let (rawLen, reader) ← readUint16 e reader
  let (rawType, reader) ← readUint16 e reader
  if rawLen.toNat < SizeofNfattr then
    throw s!"invalid netfilter attribute length {rawLen}"
  let (payload, reader) ← readPayload (rawLen.toNat - SizeofNfattr) reader
  let padding := nlaAlignedLen rawLen - rawLen
  let attr : NfAttr :=
    { typ := rawType &&& NLA_TYPE_MASK
      nested := rawType &&& NLA_F_NESTED == NLA_F_NESTED
      payload }
  return (attr, reader.drop padding.toNat)

/-- A loop `for reader.Len() > 0` over the attributes of a payload. -/
def forEachAttr {σ : Type} (e : Endian) (handle : σ → NfAttr → Except String σ) (s : σ)
    (payload : List UInt8) : Except String σ :=
  readEach (readNfAttr e) handle payload.length s payload

/-! ## The decoder -/

def CTA_TUPLE_ORIG : UInt16 := 1
def CTA_PROTOINFO : UInt16 := 4
def CTA_TUPLE_IP : UInt16 := 1
def CTA_TUPLE_PROTO : UInt16 := 2
def CTA_IP_V4_SRC : UInt16 := 1
def CTA_IP_V4_DST : UInt16 := 2
def CTA_IP_V6_SRC : UInt16 := 3
def CTA_IP_V6_DST : UInt16 := 4
def CTA_PROTO_NUM : UInt16 := 1
def CTA_PROTO_SRC_PORT : UInt16 := 2
def CTA_PROTO_DST_PORT : UInt16 := 3
def CTA_PROTOINFO_TCP : UInt16 := 1
def CTA_PROTOINFO_TCP_STATE : UInt16 := 1
def IPPROTO_TCP : UInt8 := 6

/-- `binary.BigEndian.Uint16` of the first two bytes. -/
def port (a b : UInt8) : Fin 65536 := ⟨256 * a.toNat + b.toNat, by
  have ha := a.toNat_lt
  have hb := b.toNat_lt
  omega⟩

/-- The body of the loop of `parseTupleIP`. -/
def tupleIPAttr (conn : Connection Addr) (attr : NfAttr) : Except String (Connection Addr) :=
  if attr.typ = CTA_IP_V4_SRC then
    match addrFromIP attr.payload with
    | some addr => .ok { conn with originalSourceIP := some addr }
    | none => .ok conn
  else if attr.typ = CTA_IP_V4_DST then
    match addrFromIP attr.payload with
    | some addr => .ok { conn with originalDestinationIP := some addr }
    | none => .ok conn
  else .ok conn

def parseTupleIP (e : Endian) (payload : List UInt8) (conn : Connection Addr) :
    Except String (Connection Addr) :=
  forEachAttr e tupleIPAttr conn payload

/-- The body of the loop of `parseTupleProto`, on the protocol seen last and the connection. -/
def tupleProtoAttr (s : UInt8 × Connection Addr) (attr : NfAttr) :
    Except String (UInt8 × Connection Addr) :=
  if attr.typ = CTA_PROTO_NUM then
    match attr.payload with
    | number :: _ => .ok (number, s.2)
    | [] => .ok s
  else if attr.typ = CTA_PROTO_SRC_PORT then
    match attr.payload with
    | a :: b :: _ => .ok (s.1, { s.2 with originalSourcePort := port a b })
    | _ => .ok s
  else if attr.typ = CTA_PROTO_DST_PORT then
    match attr.payload with
    | a :: b :: _ => .ok (s.1, { s.2 with originalDestinationPort := port a b })
    | _ => .ok s
  else .ok s

def parseTupleProto (e : Endian) (payload : List UInt8) (conn : Connection Addr) :
    Except String (Connection Addr) := do
  let (protocol, conn) ← forEachAttr e tupleProtoAttr (0, conn) payload
  if protocol ≠ IPPROTO_TCP then
    throw s!"unsupported conntrack protocol {protocol}"
  return conn

/-- The body of the loop of `parseTuple`. -/
def tupleAttr (e : Endian) (conn : Connection Addr) (attr : NfAttr) :
    Except String (Connection Addr) :=
  if attr.typ = CTA_TUPLE_IP then parseTupleIP e attr.payload conn
  else if attr.typ = CTA_TUPLE_PROTO then parseTupleProto e attr.payload conn
  else .ok conn

def parseTuple (e : Endian) (payload : List UInt8) (conn : Connection Addr) :
    Except String (Connection Addr) :=
  forEachAttr e (tupleAttr e) conn payload

/-- The body of the inner loop of `parseProtoInfo`. -/
def tcpAttr (conn : Connection Addr) (attr : NfAttr) : Except String (Connection Addr) :=
  if attr.typ = CTA_PROTOINFO_TCP_STATE then
    match attr.payload with
    | number :: _ => .ok { conn with tcpState := tcpState number }
    | [] => .ok conn
  else .ok conn

/-- The body of the outer loop of `parseProtoInfo`. -/
def protoInfoAttr (e : Endian) (conn : Connection Addr) (attr : NfAttr) :
    Except String (Connection Addr) :=
  if attr.typ ≠ CTA_PROTOINFO_TCP then .ok conn
  else forEachAttr e tcpAttr conn attr.payload

def parseProtoInfo (e : Endian) (payload : List UInt8) (conn : Connection Addr) :
    Except String (Connection Addr) :=
  forEachAttr e (protoInfoAttr e) conn payload

/-- The body of the loop of `connectionFromRawData`. -/
def messageAttr (e : Endian) (conn : Connection Addr) (attr : NfAttr) :
    Except String (Connection Addr) :=
  if attr.typ = CTA_TUPLE_ORIG then parseTuple e attr.payload conn
  else if attr.typ = CTA_PROTOINFO then parseProtoInfo e attr.payload conn
  else .ok conn

local instance neZero_ports : NeZero 65536 := ⟨by decide⟩

/-- The zero `Connection`. -/
def noConnection : Connection Addr where
  originalSourceIP := none
  originalSourcePort := 0
  originalDestinationIP := none
  originalDestinationPort := 0
  tcpState := .none

/-- `connectionFromRawData`; `none` stands for the result `false`. -/
def connectionFromRawData (e : Endian) (data : List UInt8) :
    Except String (Option (Connection Addr)) := do
  if data.length < SizeofNfgenmsg then
    return none
  let conn ← forEachAttr e (messageAttr e) noConnection (data.drop SizeofNfgenmsg)
  if conn.originalSourceIP.isNone || conn.originalDestinationIP.isNone then
    return none
  return some conn

/-! ## Encoded attributes -/

def Endian.bytes (e : Endian) (v : UInt16) : List UInt8 :=
  match e with
  | .little => [UInt8.ofNat (v.toNat % 256), UInt8.ofNat (v.toNat / 256)]
  | .big => [UInt8.ofNat (v.toNat / 256), UInt8.ofNat (v.toNat % 256)]

/-- An attribute to be written. The two high bits of its type are flags. -/
structure Attr where
  rawType : UInt16
  payload : List UInt8

/-- The type without the flags, and the payload. -/
def Attr.content (a : Attr) : UInt16 × List UInt8 := (a.rawType &&& NLA_TYPE_MASK, a.payload)

/-- The attribute as the decoder has it. -/
def Attr.decoded (a : Attr) : NfAttr where
  typ := a.rawType &&& NLA_TYPE_MASK
  nested := a.rawType &&& NLA_F_NESTED == NLA_F_NESTED
  payload := a.payload

/-- The zeros that fill up a length to a multiple of four. -/
def padding (length : Nat) : Nat := (4 - length % 4) % 4

def Attr.encode (e : Endian) (a : Attr) : List UInt8 :=
  e.bytes (UInt16.ofNat (a.payload.length + SizeofNfattr)) ++ (e.bytes a.rawType ++ (a.payload ++
    List.replicate (padding (a.payload.length + SizeofNfattr)) 0))

/-- The length of an attribute can be written in 16 bits. -/
def Attr.Fits (a : Attr) : Prop := a.payload.length + SizeofNfattr < 65536

theorem readUint16_bytes (e : Endian) (v : UInt16) (rest : List UInt8) :
    readUint16 e (e.bytes v ++ rest) = .ok (v, rest) := by
  have hlow : (UInt8.ofNat (v.toNat % 256)).toNat = v.toNat % 256 := by
    rw [UInt8.toNat_ofNat']
    omega
  have hhigh : (UInt8.ofNat (v.toNat / 256)).toNat = v.toNat / 256 := by
    have hv := v.toNat_lt
    rw [UInt8.toNat_ofNat']
    omega
  have hback : UInt16.ofNat (v.toNat % 256 + 256 * (v.toNat / 256)) = v := by
    rw [Nat.mod_add_div, UInt16.ofNat_toNat]
  cases e with
  | little =>
    simp only [Endian.bytes, List.cons_append, List.nil_append, readUint16, Endian.uint16, hlow,
      hhigh, hback]
  | big =>
    rw [Nat.add_comm] at hback
    simp only [Endian.bytes, List.cons_append, List.nil_append, readUint16, Endian.uint16, hlow,
      hhigh, hback]

/-- The aligned length wraps around with the length, so the padding is right at every length. -/
theorem nlaAlignedLen_sub (length : UInt16) :
    (nlaAlignedLen length - length).toNat = padding length.toNat := by
  have hlt := length.toNat_lt
  have hround : (nlaAlignedLen length).toNat = (length.toNat + 3) % 65536 / 4 * 4 := by
    have hmask := and_two_pow_sub ((length.toNat + 3) % 65536) 16 2 (by omega) (by decide)
    have hsum : (length + NLA_ALIGNTO - 1).toNat = (length.toNat + 3) % 65536 := by
      rw [UInt16.toNat_sub, UInt16.toNat_add]
      change (2 ^ 16 - 1 + (length.toNat + 4) % 2 ^ 16) % 2 ^ 16 = _
      omega
    rw [nlaAlignedLen, UInt16.toNat_and, hsum]
    exact hmask
  rw [UInt16.toNat_sub, hround, padding]
  omega

/-- An attribute is read back, unless it has no payload and nothing follows it. -/
theorem readNfAttr_encode (e : Endian) {a : Attr} (hfits : a.Fits) {rest : List UInt8}
    (hne : a.payload ≠ [] ∨ rest ≠ []) :
    readNfAttr e (a.encode e ++ rest) = .ok (a.decoded, rest) := by
  have hlen : (UInt16.ofNat (a.payload.length + SizeofNfattr)).toNat =
      a.payload.length + SizeofNfattr := by
    rw [UInt16.toNat_ofNat']
    exact Nat.mod_eq_of_lt hfits
  have hpayload : readPayload a.payload.length (a.payload ++
      (List.replicate (padding (a.payload.length + SizeofNfattr)) 0 ++ rest)) = .ok (a.payload,
        List.replicate (padding (a.payload.length + SizeofNfattr)) 0 ++ rest) := by
    rw [readPayload, if_neg, List.take_left, List.drop_left]
    · simp
    · intro hnil
      obtain ⟨hp, hr⟩ := List.append_eq_nil_iff.mp hnil
      exact hne.elim (· hp) (· (List.append_eq_nil_iff.mp hr).2)
  have hskip : (List.replicate (padding (a.payload.length + SizeofNfattr)) 0 ++ rest).drop
      (padding (a.payload.length + SizeofNfattr)) = rest := List.drop_left' List.length_replicate
  have hlong : ¬ a.payload.length + SizeofNfattr < SizeofNfattr := by omega
  simp only [readNfAttr, Attr.encode, List.append_assoc, readUint16_bytes, hlen, nlaAlignedLen_sub,
    Nat.add_sub_cancel, hpayload, hskip, if_neg hlong, bind, Except.bind]
  rfl

theorem readNfAttr_empty (e : Endian) {a : Attr} (h : a.payload = []) :
    readNfAttr e (a.encode e) = .error "EOF" := by
  simp only [readNfAttr, Attr.encode, h, readUint16_bytes, bind, Except.bind]
  rfl

/-! ## Well-formed trees -/

/-- A sequence of attributes: those that are known, each with its payload, and any others, in any
order. -/
structure Level (known : List (UInt16 × List UInt8)) where
  attrs : List Attr
  arrangement : Arrangement Prod.fst known (attrs.map Attr.content)
  fits : ∀ a ∈ attrs, a.Fits

/-- A handler that does not look at the flags, on the type and the payload of an attribute. -/
def blind {σ : Type} (handle : σ → NfAttr → Except String σ) (s : σ) (c : UInt16 × List UInt8) :
    Except String σ :=
  handle s ⟨c.1, false, c.2⟩

namespace Level

variable {known : List (UInt16 × List UInt8)} (level : Level known)

def encode (e : Endian) : List UInt8 := level.attrs.flatMap (Attr.encode e)

def EndsFull : Prop := ∀ a ∈ level.attrs.getLast?, a.payload ≠ []

theorem encode_ne_nil (e : Endian) (a : Attr) : a.encode e ≠ [] := by
  cases e <;> exact List.cons_ne_nil _ _

/-- The attributes are read back one by one. -/
theorem forEachAttr_attrs {σ : Type} (e : Endian) (hfull : level.EndsFull)
    (handle : σ → NfAttr → Except String σ) (s : σ) :
    forEachAttr e handle s (level.encode e) = (level.attrs.map Attr.decoded).foldlM handle s := by
  have hread : ∀ front a back, level.attrs = front ++ a :: back →
      readNfAttr e (a.encode e ++ back.flatMap (Attr.encode e)) =
        .ok (a.decoded, back.flatMap (Attr.encode e)) := by
    intro front a back hsplit
    refine readNfAttr_encode e (level.fits a (hsplit ▸ by simp)) ?_
    cases back with
    | nil => exact .inl (hfull a (by simp [hsplit]))
    | cons b back => exact .inr (by simp [encode_ne_nil])
  rw [forEachAttr, encode, readEach_flatMap (encode_ne_nil e) hread
    (length_le_flatMap (encode_ne_nil e) _)]

/-- Nothing can be read after the header of an attribute without payload at the end. -/
theorem endsFull_of_ok {σ : Type} {e : Endian} {handle : σ → NfAttr → Except String σ} {s s' : σ}
    (h : forEachAttr e handle s (level.encode e) = .ok s') : level.EndsFull := by
  intro a hlast hempty
  obtain ⟨front, hsplit⟩ := List.getLast?_eq_some_iff.mp hlast
  have hshort : ∀ n s, readEach (readNfAttr e) handle (n + 1) s (a.encode e) = .error "EOF" := by
    intro n s
    obtain ⟨b, input, hinput⟩ := List.exists_cons_of_ne_nil (encode_ne_nil e a)
    rw [hinput, readEach, ← hinput, readNfAttr_empty e hempty]
  have hread : ∀ front' b back, front = front' ++ b :: back →
      readNfAttr e (b.encode e ++ (back.flatMap (Attr.encode e) ++ a.encode e)) =
        .ok (b.decoded, back.flatMap (Attr.encode e) ++ a.encode e) := by
    intro front' b back hfront
    refine readNfAttr_encode e (level.fits b (by simp [hsplit, hfront])) (.inr ?_)
    simp [encode_ne_nil]
  have hlength := length_le_flatMap (encode_ne_nil e) level.attrs
  rw [hsplit, List.length_append, List.length_singleton] at hlength
  obtain ⟨n, hn⟩ := Nat.exists_eq_add_of_le hlength
  rw [forEachAttr, encode, hsplit, hn, Nat.add_assoc, List.flatMap_append, List.flatMap_singleton,
    Nat.add_comm 1 n, readEach_flatMap_append (encode_ne_nil e) hread] at h
  simp only [hshort] at h
  cases hfold : (front.map Attr.decoded).foldlM handle s with
  | error err =>
    rw [hfold] at h
    cases h
  | ok s₁ =>
    rw [hfold] at h
    cases h

/-- A loop that succeeds has handled the known attributes. -/
theorem of_forEachAttr_ok {σ : Type} {e : Endian} {handle : σ → NfAttr → Except String σ}
    {s s' : σ} (hblind : ∀ s (a : Attr), handle s a.decoded = blind handle s a.content)
    (h : forEachAttr e handle s (level.encode e) = .ok s') :
    level.EndsFull ∧ ∀ k ∈ known, ∃ s₁ s₂, blind handle s₁ k = .ok s₂ := by
  have hfull := level.endsFull_of_ok h
  rw [level.forEachAttr_attrs e hfull] at h
  refine ⟨hfull, fun k hk => ?_⟩
  obtain ⟨a, ha, rfl⟩ := List.mem_map.mp
    (level.arrangement.order.mem_iff.mpr (List.mem_append_left _ hk))
  obtain ⟨s₁, s₂, hs⟩ := exists_of_foldlM_ok h _ (List.mem_map_of_mem ha)
  exact ⟨s₁, s₂, hblind s₁ a ▸ hs⟩

theorem forEachAttr_encode {σ : Type} (e : Endian) (hfull : level.EndsFull)
    {handle : σ → NfAttr → Except String σ}
    (hblind : ∀ s (a : Attr), handle s a.decoded = blind handle s a.content)
    (hignore : ∀ a, (∀ k ∈ known, a.1 ≠ k.1) → ∀ s, blind handle s a = pure s)
    (hcomm : known.Pairwise (Commutes (blind handle))) (s : σ) :
    forEachAttr e handle s (level.encode e) = known.foldlM (blind handle) s := by
  rw [level.forEachAttr_attrs e hfull, ← level.arrangement.foldlM_eq hignore hcomm,
    List.foldlM_map, List.foldlM_map]
  simp only [hblind]

/-- A sequence with one known attribute. -/
theorem forEachAttr_single {σ : Type} {k : UInt16 × List UInt8} (level : Level [k]) (e : Endian)
    (hfull : level.EndsFull) {handle : σ → NfAttr → Except String σ}
    (hblind : ∀ s (a : Attr), handle s a.decoded = blind handle s a.content)
    (hignore : ∀ a s, a.1 ≠ k.1 → blind handle s a = pure s)
    {f : σ → σ} (hf : ∀ s, blind handle s k = pure (f s)) (s : σ) :
    forEachAttr e handle s (level.encode e) = pure (f s) := by
  rw [level.forEachAttr_encode e hfull hblind]
  · simp only [List.foldlM_cons, List.foldlM_nil, hf, pure_bind]
  · exact fun a hother s => hignore a s (hother k List.mem_cons_self)
  · exact List.pairwise_singleton _ _

/-- A sequence with two known attributes that set different things. -/
theorem forEachAttr_pair {σ : Type} {k k' : UInt16 × List UInt8} (level : Level [k, k'])
    (e : Endian) (hfull : level.EndsFull) {handle : σ → NfAttr → Except String σ}
    (hblind : ∀ s (a : Attr), handle s a.decoded = blind handle s a.content)
    (hignore : ∀ a s, a.1 ≠ k.1 → a.1 ≠ k'.1 → blind handle s a = pure s)
    {f f' : σ → σ} (hf : ∀ s, blind handle s k = pure (f s))
    (hf' : ∀ s, blind handle s k' = pure (f' s)) (hcomm : ∀ s, f' (f s) = f (f' s)) (s : σ) :
    forEachAttr e handle s (level.encode e) = pure (f' (f s)) := by
  rw [level.forEachAttr_encode e hfull hblind]
  · simp only [List.foldlM_cons, List.foldlM_nil, hf, hf', pure_bind]
  · intro a hother s
    exact hignore a s (hother k List.mem_cons_self)
      (hother k' (List.mem_cons_of_mem k List.mem_cons_self))
  · exact List.pairwise_pair.mpr (.of_pure hf hf' hcomm)

end Level

/-- The addresses of a tuple, of one family. -/
inductive Addresses
  | v4 (source destination : UInt8 × UInt8 × UInt8 × UInt8)
  | v6 (source destination : { ip : List UInt8 // ip.length = 16 })

def Addresses.attrs : Addresses → List (UInt16 × List UInt8)
  | .v4 (a, b, c, d) (a', b', c', d') =>
    [(CTA_IP_V4_SRC, [a, b, c, d]), (CTA_IP_V4_DST, [a', b', c', d'])]
  | .v6 source destination => [(CTA_IP_V6_SRC, source), (CTA_IP_V6_DST, destination)]

def Addresses.source : Addresses → Addr
  | .v4 (a, b, c, d) _ => .v4 a b c d
  | .v6 source _ => .v6 source

def Addresses.destination : Addresses → Addr
  | .v4 _ (a, b, c, d) => .v4 a b c d
  | .v6 _ destination => .v6 destination

def portBytes (p : Fin 65536) : List UInt8 :=
  [UInt8.ofNat (p.val / 256), UInt8.ofNat (p.val % 256)]

/-- The tree of an entry for a TCP connection, with the header of the message. Beside addresses of
IPv6 there are none of IPv4. -/
structure Tree (e : Endian) where
  nfgenmsg : { header : List UInt8 // header.length = SizeofNfgenmsg }
  addresses : Addresses
  sourcePort : Fin 65536
  destinationPort : Fin 65536
  state : UInt8
  ip : Level addresses.attrs
  family : ∀ a ∈ ip.attrs, a.content.1 = CTA_IP_V4_SRC ∨ a.content.1 = CTA_IP_V4_DST →
    a.content ∈ addresses.attrs
  proto : Level [(CTA_PROTO_NUM, [IPPROTO_TCP]), (CTA_PROTO_SRC_PORT, portBytes sourcePort),
    (CTA_PROTO_DST_PORT, portBytes destinationPort)]
  tuple : Level [(CTA_TUPLE_IP, ip.encode e), (CTA_TUPLE_PROTO, proto.encode e)]
  tcp : Level [(CTA_PROTOINFO_TCP_STATE, [state])]
  protoInfo : Level [(CTA_PROTOINFO_TCP, tcp.encode e)]
  message : Level [(CTA_TUPLE_ORIG, tuple.encode e), (CTA_PROTOINFO, protoInfo.encode e)]

namespace Tree

variable {e : Endian} (t : Tree e)

def encode : List UInt8 := t.nfgenmsg ++ t.message.encode e

/-- The connection that the tree describes. -/
def connection : Connection Addr where
  originalSourceIP := some t.addresses.source
  originalSourcePort := t.sourcePort
  originalDestinationIP := some t.addresses.destination
  originalDestinationPort := t.destinationPort
  tcpState := tcpState t.state

/-- No sequence of the tree ends in an attribute without payload. -/
structure EndsFull : Prop where
  ip : t.ip.EndsFull
  proto : t.proto.EndsFull
  tuple : t.tuple.EndsFull
  tcp : t.tcp.EndsFull
  protoInfo : t.protoInfo.EndsFull
  message : t.message.EndsFull

def IPv4 : Prop := ∃ source destination, t.addresses = .v4 source destination

end Tree

/-! ## The decoder on well-formed trees -/

theorem port_portBytes (p : Fin 65536) :
    port (UInt8.ofNat (p.val / 256)) (UInt8.ofNat (p.val % 256)) = p := by
  have hp := p.isLt
  refine Fin.ext ?_
  change 256 * (UInt8.ofNat (p.val / 256)).toNat + (UInt8.ofNat (p.val % 256)).toNat = p.val
  rw [UInt8.toNat_ofNat', UInt8.toNat_ofNat']
  omega

variable {e : Endian}

def setAddresses (source destination : Addr) (conn : Connection Addr) : Connection Addr :=
  { conn with originalSourceIP := some source, originalDestinationIP := some destination }

def setPorts (p q : Fin 65536) (conn : Connection Addr) : Connection Addr :=
  { conn with originalSourcePort := p, originalDestinationPort := q }

def setState (number : UInt8) (conn : Connection Addr) : Connection Addr :=
  { conn with tcpState := tcpState number }

theorem parseTupleIP_encode {source destination : UInt8 × UInt8 × UInt8 × UInt8}
    (level : Level (Addresses.v4 source destination).attrs) (hfull : level.EndsFull)
    (conn : Connection Addr) :
    parseTupleIP e (level.encode e) conn =
      pure (setAddresses (Addresses.v4 source destination).source
        (Addresses.v4 source destination).destination conn) := by
  have hignore (a : UInt16 × List UInt8) (s : Connection Addr) (hs : a.1 ≠ CTA_IP_V4_SRC)
      (hd : a.1 ≠ CTA_IP_V4_DST) : blind tupleIPAttr s a = pure s := by
    rw [blind, tupleIPAttr, if_neg hs, if_neg hd]
    rfl
  exact level.forEachAttr_pair e hfull (fun _ _ => rfl) hignore (fun _ => rfl) (fun _ => rfl)
    (fun _ => rfl) conn

theorem parseTupleProto_encode {p q : Fin 65536}
    (level : Level [(CTA_PROTO_NUM, [IPPROTO_TCP]), (CTA_PROTO_SRC_PORT, portBytes p),
      (CTA_PROTO_DST_PORT, portBytes q)]) (hfull : level.EndsFull) (conn : Connection Addr) :
    parseTupleProto e (level.encode e) conn = pure (setPorts p q conn) := by
  have hnumber (s : UInt8 × Connection Addr) : blind tupleProtoAttr s
      (CTA_PROTO_NUM, [IPPROTO_TCP]) = pure (IPPROTO_TCP, s.2) := rfl
  have hsource (s : UInt8 × Connection Addr) : blind tupleProtoAttr s
      (CTA_PROTO_SRC_PORT, portBytes p) = pure (s.1, { s.2 with originalSourcePort := p }) := by
    conv_rhs => rw [← port_portBytes p]
    rfl
  have hdestination (s : UInt8 × Connection Addr) :
      blind tupleProtoAttr s (CTA_PROTO_DST_PORT, portBytes q) =
        pure (s.1, { s.2 with originalDestinationPort := q }) := by
    conv_rhs => rw [← port_portBytes q]
    rfl
  have hloop : forEachAttr e tupleProtoAttr (0, conn) (level.encode e) =
      pure (IPPROTO_TCP, setPorts p q conn) := by
    rw [level.forEachAttr_encode e hfull fun _ _ => rfl]
    · simp only [List.foldlM_cons, List.foldlM_nil, hnumber, hsource, hdestination, pure_bind]
      rfl
    · intro a hother s
      simp only [List.forall_mem_cons, List.not_mem_nil] at hother
      simp only [blind, tupleProtoAttr, if_neg hother.1, if_neg hother.2.1, if_neg hother.2.2.1]
      rfl
    · simp only [List.pairwise_cons, List.forall_mem_cons, List.not_mem_nil, false_imp_iff,
        implies_true, and_true, List.Pairwise.nil]
      exact ⟨⟨.of_pure hnumber hsource fun _ => rfl, .of_pure hnumber hdestination fun _ => rfl⟩,
        .of_pure hsource hdestination fun _ => rfl⟩
  rw [parseTupleProto, hloop]
  rfl

/-- Addresses of IPv6 are passed over. -/
theorem parseTupleIP_ignores {known : List (UInt16 × List UInt8)} (level : Level known)
    (hfull : level.EndsFull)
    (hother : ∀ a ∈ level.attrs, a.content.1 ≠ CTA_IP_V4_SRC ∧ a.content.1 ≠ CTA_IP_V4_DST)
    (conn : Connection Addr) : parseTupleIP e (level.encode e) conn = pure conn := by
  rw [parseTupleIP, level.forEachAttr_attrs e hfull, List.foldlM_map]
  refine foldlM_of_ignored (fun a ha s => ?_) conn
  change tupleIPAttr s ⟨a.content.1, _, _⟩ = _
  rw [tupleIPAttr, if_neg (hother a ha).1, if_neg (hother a ha).2]
  rfl

/-- The tuple, where the level of its addresses makes the change `f`. -/
theorem parseTuple_encode {known : List (UInt16 × List UInt8)} {ip : Level known}
    {p q : Fin 65536} {proto : Level [(CTA_PROTO_NUM, [IPPROTO_TCP]),
      (CTA_PROTO_SRC_PORT, portBytes p), (CTA_PROTO_DST_PORT, portBytes q)]}
    (level : Level [(CTA_TUPLE_IP, ip.encode e), (CTA_TUPLE_PROTO, proto.encode e)])
    {f : Connection Addr → Connection Addr}
    (hip : ∀ s, parseTupleIP e (ip.encode e) s = pure (f s))
    (hcomm : ∀ s, setPorts p q (f s) = f (setPorts p q s)) (hproto : proto.EndsFull)
    (hfull : level.EndsFull) (conn : Connection Addr) :
    parseTuple e (level.encode e) conn = pure (setPorts p q (f conn)) := by
  have hsecond (s : Connection Addr) :
      blind (tupleAttr e) s (CTA_TUPLE_PROTO, proto.encode e) = _ :=
    parseTupleProto_encode proto hproto s
  have hignore (a : UInt16 × List UInt8) (s : Connection Addr) (hi : a.1 ≠ CTA_TUPLE_IP)
      (hp : a.1 ≠ CTA_TUPLE_PROTO) : blind (tupleAttr e) s a = pure s := by
    rw [blind, tupleAttr, if_neg hi, if_neg hp]
    rfl
  exact level.forEachAttr_pair e hfull (fun _ _ => rfl) hignore hip hsecond hcomm conn

theorem parseProtoInfo_encode {number : UInt8} {tcp : Level [(CTA_PROTOINFO_TCP_STATE, [number])]}
    (level : Level [(CTA_PROTOINFO_TCP, tcp.encode e)]) (htcp : tcp.EndsFull)
    (hfull : level.EndsFull) (conn : Connection Addr) :
    parseProtoInfo e (level.encode e) conn = pure (setState number conn) := by
  have hstate (s : Connection Addr) :
      blind (protoInfoAttr e) s (CTA_PROTOINFO_TCP, tcp.encode e) = pure (setState number s) := by
    have hnumber (s : Connection Addr) : blind tcpAttr s (CTA_PROTOINFO_TCP_STATE, [number]) =
      pure (setState number s) := rfl
    refine tcp.forEachAttr_single e htcp (fun _ _ => rfl) (fun a s ha => ?_) hnumber s
    rw [blind, tcpAttr, if_neg ha]
    rfl
  refine level.forEachAttr_single e hfull (fun _ _ => rfl) (fun a s ha => ?_) hstate conn
  rw [blind, protoInfoAttr, if_pos ha]
  rfl

/-- The loop over the message, where the level of the addresses makes the change `f`. -/
theorem forEachAttr_message (t : Tree e) (hfull : t.EndsFull)
    {f : Connection Addr → Connection Addr}
    (hip : ∀ s, parseTupleIP e (t.ip.encode e) s = pure (f s))
    (hports : ∀ s, setPorts t.sourcePort t.destinationPort (f s) =
      f (setPorts t.sourcePort t.destinationPort s))
    (hstate : ∀ s, setState t.state (f s) = f (setState t.state s)) :
    forEachAttr e (messageAttr e) noConnection (t.message.encode e) =
      pure (setState t.state (setPorts t.sourcePort t.destinationPort (f noConnection))) := by
  have hfirst (s : Connection Addr) :
      blind (messageAttr e) s (CTA_TUPLE_ORIG, t.tuple.encode e) = _ :=
    parseTuple_encode t.tuple hip hports hfull.proto hfull.tuple s
  have hsecond (s : Connection Addr) :
      blind (messageAttr e) s (CTA_PROTOINFO, t.protoInfo.encode e) = _ :=
    parseProtoInfo_encode t.protoInfo hfull.tcp hfull.protoInfo s
  refine t.message.forEachAttr_pair e hfull.message (fun _ _ => rfl) (fun a s ht hp => ?_) hfirst
    hsecond (fun s => ?_) _
  · rw [blind, messageAttr, if_neg ht, if_neg hp]
    rfl
  · rw [hports, hstate, hports]
    rfl

theorem connectionFromRawData_eq (t : Tree e) : connectionFromRawData e t.encode =
    forEachAttr e (messageAttr e) noConnection (t.message.encode e) >>= fun conn =>
      if conn.originalSourceIP.isNone || conn.originalDestinationIP.isNone then pure none
      else pure (some conn) := by
  have hlong : ¬ (t.nfgenmsg.val ++ t.message.encode e).length < SizeofNfgenmsg := by
    rw [List.length_append, t.nfgenmsg.property]
    omega
  rw [connectionFromRawData, Tree.encode, if_neg hlong, List.drop_left' t.nfgenmsg.property]

/-- Where the decoder succeeds, no sequence ends in an attribute without payload. -/
theorem Tree.endsFull_of_ok (t : Tree e) {conn : Connection Addr}
    (h : forEachAttr e (messageAttr e) noConnection (t.message.encode e) = .ok conn) :
    t.EndsFull := by
  obtain ⟨hmessage, hknown⟩ := t.message.of_forEachAttr_ok (fun _ _ => rfl) h
  obtain ⟨⟨s₁, s₂, htuple⟩, ⟨s₃, s₄, hinfo⟩, -⟩ := List.forall_mem_cons.mp hknown |>.imp_right
    List.forall_mem_cons.mp
  obtain ⟨htupleFull, hknown⟩ := t.tuple.of_forEachAttr_ok (fun _ _ => rfl) htuple
  obtain ⟨⟨s₅, s₆, hip⟩, ⟨s₇, s₈, hproto⟩, -⟩ := List.forall_mem_cons.mp hknown |>.imp_right
    List.forall_mem_cons.mp
  obtain ⟨hinfoFull, hknown⟩ := t.protoInfo.of_forEachAttr_ok (fun _ _ => rfl) hinfo
  obtain ⟨s₉, s₁₀, htcp⟩ := hknown _ List.mem_cons_self
  have hproto : ∃ s, forEachAttr e tupleProtoAttr (0, s₇) (t.proto.encode e) = .ok s := by
    change parseTupleProto e (t.proto.encode e) s₇ = _ at hproto
    unfold parseTupleProto at hproto
    cases hloop : forEachAttr e tupleProtoAttr (0, s₇) (t.proto.encode e) with
    | error err =>
      rw [hloop] at hproto
      cases hproto
    | ok s => exact ⟨s, rfl⟩
  obtain ⟨s, hproto⟩ := hproto
  exact ⟨t.ip.endsFull_of_ok hip, t.proto.endsFull_of_ok hproto, htupleFull,
    t.tcp.endsFull_of_ok htcp, hinfoFull, hmessage⟩

/-- **The decoder returns the addresses, the ports and the state of a tree** if and only if it is
one of IPv4 in which no sequence ends in an attribute without payload. -/
theorem connectionFromRawData_encode (t : Tree e) :
    connectionFromRawData e t.encode = .ok (some t.connection) ↔ t.IPv4 ∧ t.EndsFull := by
  rw [connectionFromRawData_eq]
  constructor
  · intro h
    cases hloop : forEachAttr e (messageAttr e) noConnection (t.message.encode e) with
    | error err =>
      rw [hloop] at h
      cases h
    | ok conn =>
    have hfull := t.endsFull_of_ok hloop
    refine ⟨?_, hfull⟩
    cases haddresses : t.addresses with
    | v4 source destination => exact ⟨source, destination, haddresses⟩
    | v6 source destination =>
      -- no address is set
      have hother : ∀ a ∈ t.ip.attrs,
          a.content.1 ≠ CTA_IP_V4_SRC ∧ a.content.1 ≠ CTA_IP_V4_DST := by
        intro a ha
        have hfamily := t.family a ha
        simp only [haddresses, Addresses.attrs, List.mem_cons, List.not_mem_nil, or_false]
          at hfamily
        grind [CTA_IP_V4_SRC, CTA_IP_V4_DST, CTA_IP_V6_SRC, CTA_IP_V6_DST]
      rw [forEachAttr_message t hfull (f := id) (parseTupleIP_ignores t.ip hfull.ip hother)
        (fun _ => rfl) fun _ => rfl] at h
      cases h
  · rintro ⟨⟨source, destination, haddresses⟩, hfull⟩
    have hip : ∀ s, parseTupleIP e (t.ip.encode e) s =
        pure (setAddresses t.addresses.source t.addresses.destination s) := by
      obtain ⟨_, addresses, _, _, _, ip, _, _, _, _, _, _⟩ := t
      cases haddresses
      exact parseTupleIP_encode ip hfull.ip
    rw [forEachAttr_message t hfull hip (fun _ => rfl) fun _ => rfl]
    rfl

/-! ## Trees -/

instance (a : Attr) : Decidable a.Fits :=
  inferInstanceAs (Decidable (a.payload.length + SizeofNfattr < 65536))

instance {known : List (UInt16 × List UInt8)} (level : Level known) : Decidable level.EndsFull :=
  inferInstanceAs (Decidable (∀ a ∈ level.attrs.getLast?, a.payload ≠ []))

/-- From 10.0.0.9 to 10.0.0.2, with an attribute without payload between the two. -/
def sampleIP : Level (Addresses.v4 (10, 0, 0, 9) (10, 0, 0, 2)).attrs where
  attrs := [⟨CTA_IP_V4_DST, [10, 0, 0, 2]⟩, ⟨9, []⟩, ⟨CTA_IP_V4_SRC, [10, 0, 0, 9]⟩]
  arrangement := ⟨[(9, [])], by decide, by decide⟩
  fits := by decide

def sampleProto : Level [(CTA_PROTO_NUM, [IPPROTO_TCP]), (CTA_PROTO_SRC_PORT, portBytes 50000),
    (CTA_PROTO_DST_PORT, portBytes 80)] where
  attrs := [⟨CTA_PROTO_DST_PORT, portBytes 80⟩, ⟨CTA_PROTO_SRC_PORT, portBytes 50000⟩,
    ⟨CTA_PROTO_NUM, [IPPROTO_TCP]⟩]
  arrangement := ⟨[], by decide +kernel, by decide⟩
  fits := by decide

def sampleTuple : Level [(CTA_TUPLE_IP, sampleIP.encode .little),
    (CTA_TUPLE_PROTO, sampleProto.encode .little)] where
  attrs := [⟨CTA_TUPLE_IP ||| NLA_F_NESTED, sampleIP.encode .little⟩,
    ⟨CTA_TUPLE_PROTO ||| NLA_F_NESTED, sampleProto.encode .little⟩]
  arrangement := ⟨[], by decide +kernel, by decide⟩
  fits := by decide

def sampleTCP : Level [(CTA_PROTOINFO_TCP_STATE, [3])] where
  attrs := [⟨CTA_PROTOINFO_TCP_STATE, [3]⟩, ⟨2, [7, 7]⟩]
  arrangement := ⟨[(2, [7, 7])], by decide, by decide⟩
  fits := by decide

def sampleProtoInfo : Level [(CTA_PROTOINFO_TCP, sampleTCP.encode .little)] where
  attrs := [⟨CTA_PROTOINFO_TCP ||| NLA_F_NESTED, sampleTCP.encode .little⟩]
  arrangement := ⟨[], by decide, by decide⟩
  fits := by decide

/-- The connection, with an attribute without payload before the others. -/
def sample : Tree .little where
  nfgenmsg := ⟨[2, 0, 0, 0], rfl⟩
  addresses := .v4 (10, 0, 0, 9) (10, 0, 0, 2)
  sourcePort := 50000
  destinationPort := 80
  state := 3
  ip := sampleIP
  family := by decide
  proto := sampleProto
  tuple := sampleTuple
  tcp := sampleTCP
  protoInfo := sampleProtoInfo
  message :=
    { attrs := [⟨20, []⟩, ⟨CTA_PROTOINFO ||| NLA_F_NESTED, sampleProtoInfo.encode .little⟩,
        ⟨CTA_TUPLE_ORIG ||| NLA_F_NESTED, sampleTuple.encode .little⟩]
      arrangement := ⟨[(20, [])], by decide +kernel, by decide⟩
      fits := by decide }

theorem connectionFromRawData_encode_sample :
    connectionFromRawData .little sample.encode = .ok (some sample.connection) :=
  (connectionFromRawData_encode sample).mpr ⟨⟨_, _, rfl⟩,
    ⟨by decide, by decide, by decide, by decide, by decide, by decide⟩⟩

/-- The same connection, with the attribute without payload after the others. -/
def sampleTrailing : Tree .little :=
  { sample with
    message :=
      { attrs := [⟨CTA_TUPLE_ORIG ||| NLA_F_NESTED, sampleTuple.encode .little⟩,
          ⟨CTA_PROTOINFO ||| NLA_F_NESTED, sampleProtoInfo.encode .little⟩, ⟨20, []⟩]
        arrangement := ⟨[(20, [])], by decide +kernel, by decide⟩
        fits := by decide } }

/-- Addresses of IPv6 that differ in the last byte. -/
def sampleAddresses6 : Addresses :=
  .v6 ⟨[0x20, 1, 0xd, 0xb8, 0, 0, 0, 0, 0, 0, 0, 0, 0, 0, 0, 9], rfl⟩
    ⟨[0x20, 1, 0xd, 0xb8, 0, 0, 0, 0, 0, 0, 0, 0, 0, 0, 0, 2], rfl⟩

def sampleIP6 : Level sampleAddresses6.attrs where
  attrs := sampleAddresses6.attrs.map fun c => ⟨c.1, c.2⟩
  arrangement := ⟨[], by decide +kernel, by decide⟩
  fits := by decide

def sampleTuple6 : Level [(CTA_TUPLE_IP, sampleIP6.encode .little),
    (CTA_TUPLE_PROTO, sampleProto.encode .little)] where
  attrs := [⟨CTA_TUPLE_IP ||| NLA_F_NESTED, sampleIP6.encode .little⟩,
    ⟨CTA_TUPLE_PROTO ||| NLA_F_NESTED, sampleProto.encode .little⟩]
  arrangement := ⟨[], by decide +kernel, by decide⟩
  fits := by decide

def sample6 : Tree .little where
  nfgenmsg := ⟨[10, 0, 0, 0], rfl⟩
  addresses := sampleAddresses6
  sourcePort := 50000
  destinationPort := 80
  state := 3
  ip := sampleIP6
  family := by decide
  proto := sampleProto
  tuple := sampleTuple6
  tcp := sampleTCP
  protoInfo := sampleProtoInfo
  message :=
    { attrs := [⟨CTA_TUPLE_ORIG ||| NLA_F_NESTED, sampleTuple6.encode .little⟩,
        ⟨CTA_PROTOINFO ||| NLA_F_NESTED, sampleProtoInfo.encode .little⟩]
      arrangement := ⟨[], by decide +kernel, by decide⟩
      fits := by decide }

/-- An attribute without payload at the end of a sequence is an error, since reading no bytes at the
end of a reader is one, and addresses of IPv6 are not decoded. -/
theorem trailing_empty_and_ipv6 :
    connectionFromRawData .little sampleTrailing.encode = .error "EOF" ∧
      connectionFromRawData .little sample6.encode = .ok none := by
  decide +kernel

end Hypeman.AutoStandby.Conntrack
