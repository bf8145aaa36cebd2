import Hypeman.AutoStandby.Conntrack

/-!
# Attributes that are cut short

The reader of attributes asks `(*bytes.Reader).Read` for the payload an attribute declares and does
not look at how many bytes it got (`lib/autostandby/conntrack_events_linux.go`). A payload that is
cut short comes back filled up with zeros, and decoding goes on.

* `attributes`, `nesting`: the attributes of a byte string, split by the lengths they declare, with
  those inside the payloads of the types that hold others.
* `connectionFromRawData_fails_iff`: the decoder fails on a byte string exactly if there is one in
  it that cannot be read, or another protocol than TCP.
* `malformed_refused_iff`: it fails on every attribute with a wrong length unless one is cut inside
  its payload.
* `truncated_address_accepted`: a connection from 10.0.0.0, of which the last byte was cut off.
-/

namespace Hypeman.AutoStandby.Conntrack

open Foundations

/-! ## The attributes of a byte string -/

/-- The length an attribute declares; it is given by the bytes from its header on. -/
def declared (e : Endian) : List UInt8 → Nat
  | a :: b :: _ => (e.uint16 a b).toNat
  | _ => 0

/-- Its type without the flags. -/
def declaredType (e : Endian) : List UInt8 → UInt16
  | _ :: _ :: c :: d :: _ => e.uint16 c d &&& NLA_TYPE_MASK
  | _ => 0

/-- Its payload, with zeros for bytes that are missing. -/
def filledPayload (e : Endian) (bytes : List UInt8) : List UInt8 :=
  (bytes.drop SizeofNfattr).take (declared e bytes - SizeofNfattr) ++
    List.replicate (declared e bytes - bytes.length) 0

/-- Nothing follows the header, or the length is smaller than the header. -/
def Unreadable (e : Endian) (bytes : List UInt8) : Prop :=
  bytes.length ≤ SizeofNfattr ∨ declared e bytes < SizeofNfattr

instance (e : Endian) (bytes : List UInt8) : Decidable (Unreadable e bytes) :=
  inferInstanceAs (Decidable (_ ∨ _))

/-- The attributes of at most `n` bytes, up to one that cannot be read. Each is given by the bytes
from its header on. -/
def attributes (e : Endian) : Nat → List UInt8 → List (List UInt8)
  | 0, _ => []
  | _ + 1, [] => []
  | n + 1, b :: input =>
    (b :: input) ::
      if Unreadable e (b :: input) then []
      else attributes e n
        ((b :: input).drop (declared e (b :: input) + padding (declared e (b :: input))))

/-- An attribute, or the protocol of a tuple. -/
inductive Item
  | attr (bytes : List UInt8)
  | protocol (number : UInt8)
deriving DecidableEq

/-- The attributes of a payload, each before the items that `inner` finds in it. -/
def nested (e : Endian) (inner : UInt16 → List UInt8 → List Item) (payload : List UInt8) :
    List Item :=
  (attributes e payload.length payload).flatMap fun bytes =>
    .attr bytes :: if Unreadable e bytes then []
      else inner (declaredType e bytes) (filledPayload e bytes)

/-- The last protocol number of a payload. -/
def protocolOf (e : Endian) (payload : List UInt8) : UInt8 :=
  (attributes e payload.length payload).foldl (fun number bytes =>
    if declaredType e bytes = CTA_PROTO_NUM ∧ ¬ Unreadable e bytes then
      (filledPayload e bytes).headD number
    else number) 0

def tupleItems (e : Endian) (typ : UInt16) (payload : List UInt8) : List Item :=
  if typ = CTA_TUPLE_IP then nested e (fun _ _ => []) payload
  else if typ = CTA_TUPLE_PROTO then
    nested e (fun _ _ => []) payload ++ [.protocol (protocolOf e payload)]
  else []

def protoInfoItems (e : Endian) (typ : UInt16) (payload : List UInt8) : List Item :=
  if typ = CTA_PROTOINFO_TCP then nested e (fun _ _ => []) payload else []

def messageItems (e : Endian) (typ : UInt16) (payload : List UInt8) : List Item :=
  if typ = CTA_TUPLE_ORIG then nested e (tupleItems e) payload
  else if typ = CTA_PROTOINFO then nested e (protoInfoItems e) payload
  else []

/-- All items of a message. -/
def nesting (e : Endian) (data : List UInt8) : List Item :=
  nested e (messageItems e) (data.drop SizeofNfgenmsg)

/-- The length is smaller than the header or larger than what is left. -/
def Malformed (e : Endian) (bytes : List UInt8) : Prop :=
  SizeofNfattr ≤ bytes.length ∧
    (declared e bytes < SizeofNfattr ∨ bytes.length < declared e bytes)

/-- The payload is there, but not all of it. -/
def CutShort (e : Endian) : Item → Prop
  | .attr bytes => SizeofNfattr < bytes.length ∧ bytes.length < declared e bytes
  | .protocol _ => False

def Refused (e : Endian) : Item → Prop
  | .attr bytes => Unreadable e bytes
  | .protocol number => number ≠ IPPROTO_TCP

/-! ## Where the decoder fails -/

/-- An attribute is refused for its header alone: one cut short is read. -/
theorem readNfAttr_eq (e : Endian) (bytes : List UInt8) :
    (Unreadable e bytes ∧ ∃ err, readNfAttr e bytes = .error err) ∨
      ¬ Unreadable e bytes ∧ ∃ isNested, readNfAttr e bytes =
        .ok (⟨declaredType e bytes, isNested, filledPayload e bytes⟩,
          bytes.drop (declared e bytes + padding (declared e bytes))) := by
  -- the header is four bytes
  rcases bytes with _ | ⟨a, _ | ⟨b, _ | ⟨c, _ | ⟨d, rest⟩⟩⟩⟩
  iterate 4 exact .inl ⟨.inl (Nat.le_of_ble_eq_true rfl), _, rfl⟩
  simp only [readNfAttr, readUint16, Unreadable, declared, declaredType, filledPayload, bind,
    Except.bind]
  by_cases hsmall : (e.uint16 a b).toNat < SizeofNfattr
  · rw [if_pos hsmall]
    exact .inl ⟨.inr hsmall, _, rfl⟩
  · rw [if_neg hsmall]
    cases rest with
    | nil => exact .inl ⟨.inl (Nat.le_of_ble_eq_true rfl), _, rfl⟩
    | cons x rest =>
      refine .inr ⟨not_or.mpr ⟨by simp [SizeofNfattr], hsmall⟩,
        e.uint16 c d &&& NLA_F_NESTED == NLA_F_NESTED, ?_⟩
      have hlength : (e.uint16 a b).toNat + padding (e.uint16 a b).toNat =
          (e.uint16 a b).toNat - SizeofNfattr + padding (e.uint16 a b).toNat + SizeofNfattr := by
        omega
      rw [hlength, nlaAlignedLen_sub]
      simp [readPayload, SizeofNfattr, List.drop_drop, pure, Except.pure, Nat.sub_sub]
      omega

variable {e : Endian}

/-- If a handler fails exactly where there is a refused item in the payload, so does the loop. -/
theorem forEachAttr_fails_iff {σ : Type} {handle : σ → NfAttr → Except String σ}
    {inner : UInt16 → List UInt8 → List Item}
    (hhandle : ∀ s a, (∃ err, handle s a = .error err) ↔
      ∃ v ∈ inner a.typ a.payload, Refused e v) (s : σ) (payload : List UInt8) :
    (∃ err, forEachAttr e handle s payload = .error err) ↔
      ∃ v ∈ nested e inner payload, Refused e v := by
  unfold forEachAttr nested
  generalize payload.length = n
  induction n generalizing s payload with
  | zero => simp [readEach, attributes]
  | succ n ih =>
    cases payload with
    | nil => simp [readEach, attributes]
    | cons b input =>
      simp only [attributes, List.flatMap_cons]
      rcases readNfAttr_eq e (b :: input) with ⟨hbad, err, herr⟩ | ⟨hgood, isNested, hok⟩
      · rw [readEach, herr]
        exact iff_of_true ⟨err, rfl⟩ ⟨_, .head _, hbad⟩
      · rw [if_neg hgood, if_neg hgood, readEach, hok]
        have hinner := hhandle s
          ⟨declaredType e (b :: input), isNested, filledPayload e (b :: input)⟩
        dsimp only
        cases hh : handle s
            ⟨declaredType e (b :: input), isNested, filledPayload e (b :: input)⟩ with
        | error err =>
          obtain ⟨v, hv, hrefused⟩ := hinner.mp ⟨err, hh⟩
          exact iff_of_true ⟨err, rfl⟩
            ⟨v, List.mem_append_left _ (List.mem_cons_of_mem _ hv), hrefused⟩
        | ok s' =>
          have hnone : ¬ ∃ v ∈ inner (declaredType e (b :: input)) (filledPayload e (b :: input)),
              Refused e v := fun h => by
            obtain ⟨err, herr⟩ := hinner.mpr h
            cases herr.symm.trans hh
          rw [ih]
          constructor
          · rintro ⟨v, hv, hrefused⟩
            exact ⟨v, List.mem_append_right _ hv, hrefused⟩
          · rintro ⟨v, hv, hrefused⟩
            rcases List.mem_append.mp hv with hv | hv
            · rcases List.mem_cons.mp hv with rfl | hv
              · exact absurd hrefused hgood
              · exact absurd ⟨v, hv, hrefused⟩ hnone
            · exact ⟨v, hv, hrefused⟩

/-- A loop whose body never fails. -/
theorem forEachAttr_flat {σ : Type} {handle : σ → NfAttr → Except String σ}
    (hhandle : ∀ s a, ∃ s', handle s a = .ok s') (s : σ) (payload : List UInt8) :
    (∃ err, forEachAttr e handle s payload = .error err) ↔
      ∃ v ∈ nested e (fun _ _ => []) payload, Refused e v := by
  refine forEachAttr_fails_iff (fun s a => ?_) s payload
  obtain ⟨s', hs'⟩ := hhandle s a
  simp [hs']

theorem tupleIPAttr_ok (conn : Connection Addr) (attr : NfAttr) :
    ∃ conn', tupleIPAttr conn attr = .ok conn' := by
  unfold tupleIPAttr
  split_ifs <;> (try split) <;> exact ⟨_, rfl⟩

/-- Of the state of the loop, the protocol is changed by a protocol number only. -/
theorem tupleProtoAttr_ok (s : UInt8 × Connection Addr) (attr : NfAttr) :
    ∃ s', tupleProtoAttr s attr = .ok s' ∧
      s'.1 = if attr.typ = CTA_PROTO_NUM then attr.payload.headD s.1 else s.1 := by
  unfold tupleProtoAttr
  split_ifs with hnum
  · cases attr.payload <;> exact ⟨_, rfl, rfl⟩
  all_goals (try split) <;> exact ⟨_, rfl, rfl⟩

theorem tcpAttr_ok (conn : Connection Addr) (attr : NfAttr) :
    ∃ conn', tcpAttr conn attr = .ok conn' := by
  unfold tcpAttr
  split_ifs <;> (try split) <;> exact ⟨_, rfl⟩

/-- The protocol that the loop has seen last. -/
theorem protocolOf_eq {conn : Connection Addr} {payload : List UInt8}
    {s : UInt8 × Connection Addr} (h : forEachAttr e tupleProtoAttr (0, conn) payload = .ok s) :
    s.1 = protocolOf e payload := by
  suffices hloop : ∀ (n : Nat) (s₀ : UInt8 × Connection Addr) (payload : List UInt8),
      readEach (readNfAttr e) tupleProtoAttr n s₀ payload = .ok s → s.1 =
        (attributes e n payload).foldl (fun number bytes =>
          if declaredType e bytes = CTA_PROTO_NUM ∧ ¬ Unreadable e bytes then
            (filledPayload e bytes).headD number
          else number) s₀.1 from hloop _ _ _ h
  intro n
  induction n with
  | zero =>
    rintro s₀ payload ⟨⟩
    rfl
  | succ n ih =>
    intro s₀ payload h
    cases payload with
    | nil =>
      cases h
      rfl
    | cons b input =>
      rcases readNfAttr_eq e (b :: input) with ⟨-, err, herr⟩ | ⟨hgood, isNested, hok⟩
      · rw [readEach, herr] at h
        cases h
      · obtain ⟨s₁, hs₁, hfst⟩ := tupleProtoAttr_ok s₀
          ⟨declaredType e (b :: input), isNested, filledPayload e (b :: input)⟩
        rw [readEach, hok] at h
        simp only [hs₁] at h
        rw [ih s₁ _ h, attributes, if_neg hgood, List.foldl_cons, hfst]
        simp only [hgood, not_false_eq_true, and_true]

theorem parseTupleProto_fails_iff (payload : List UInt8) (conn : Connection Addr) :
    (∃ err, parseTupleProto e payload conn = .error err) ↔
      ∃ v ∈ nested e (fun _ _ => []) payload ++ [.protocol (protocolOf e payload)],
        Refused e v := by
  have hloop := forEachAttr_flat (e := e)
    (fun s a => (tupleProtoAttr_ok s a).imp fun _ h => h.1) (0, conn) payload
  simp only [List.mem_append, List.mem_singleton, or_and_right, exists_or, exists_eq_left,
    ← hloop]
  unfold parseTupleProto
  cases h : forEachAttr e tupleProtoAttr (0, conn) payload with
  | error err => exact iff_of_true ⟨err, rfl⟩ (.inl ⟨err, rfl⟩)
  | ok s =>
    rw [← protocolOf_eq h]
    by_cases hp : s.1 = IPPROTO_TCP
    · simp [bind, Except.bind, hp, Refused, pure, Except.pure]
    · simp only [bind, Except.bind, if_pos hp]
      exact iff_of_true ⟨_, rfl⟩ (.inr hp)

theorem tupleAttr_fails_iff (conn : Connection Addr) (attr : NfAttr) :
    (∃ err, tupleAttr e conn attr = .error err) ↔
      ∃ v ∈ tupleItems e attr.typ attr.payload, Refused e v := by
  unfold tupleAttr tupleItems
  split_ifs
  · exact forEachAttr_flat tupleIPAttr_ok conn attr.payload
  · exact parseTupleProto_fails_iff attr.payload conn
  · simp

theorem protoInfoAttr_fails_iff (conn : Connection Addr) (attr : NfAttr) :
    (∃ err, protoInfoAttr e conn attr = .error err) ↔
      ∃ v ∈ protoInfoItems e attr.typ attr.payload, Refused e v := by
  unfold protoInfoAttr protoInfoItems
  split_ifs <;> first | contradiction | skip
  · simp
  · exact forEachAttr_flat tcpAttr_ok conn attr.payload

theorem messageAttr_fails_iff (conn : Connection Addr) (attr : NfAttr) :
    (∃ err, messageAttr e conn attr = .error err) ↔
      ∃ v ∈ messageItems e attr.typ attr.payload, Refused e v := by
  unfold messageAttr messageItems
  split_ifs
  · exact forEachAttr_fails_iff tupleAttr_fails_iff conn attr.payload
  · exact forEachAttr_fails_iff protoInfoAttr_fails_iff conn attr.payload
  · simp

/-- **The decoder fails exactly where an item of the message is refused.** -/
theorem connectionFromRawData_fails_iff (data : List UInt8) :
    (∃ err, connectionFromRawData e data = .error err) ↔ ∃ v ∈ nesting e data, Refused e v := by
  have hloop := forEachAttr_fails_iff (messageAttr_fails_iff (e := e)) noConnection
    (data.drop SizeofNfgenmsg)
  rw [nesting, ← hloop]
  unfold connectionFromRawData
  by_cases hshort : data.length < SizeofNfgenmsg
  · rw [if_pos hshort, List.drop_of_length_le hshort.le]
    exact iff_of_false (fun ⟨err, herr⟩ => by cases herr) (fun ⟨err, herr⟩ => by cases herr)
  · rw [if_neg hshort]
    cases forEachAttr e (messageAttr e) noConnection (data.drop SizeofNfgenmsg) with
    | error err => exact iff_of_true ⟨err, rfl⟩ ⟨err, rfl⟩
    | ok conn =>
      simp only [bind, Except.bind]
      refine iff_of_false (fun ⟨err, herr⟩ => ?_) (fun ⟨err, herr⟩ => by cases herr)
      split at herr <;> cases herr

/-- **On a message with an attribute of a wrong length the decoder fails if, and only if, none is
cut inside its payload or the message has something else that is refused**: an attribute with
nothing after its header or with a length below four, or another protocol than TCP. -/
theorem malformed_refused_iff (data : List UInt8) :
    ((∃ bytes, .attr bytes ∈ nesting e data ∧ Malformed e bytes) →
        ∃ err, connectionFromRawData e data = .error err) ↔
      (∀ v ∈ nesting e data, ¬ CutShort e v) ∨ ∃ v ∈ nesting e data, Refused e v := by
  rw [connectionFromRawData_fails_iff]
  constructor
  · intro h
    by_cases hcut : ∃ v ∈ nesting e data, CutShort e v
    · obtain ⟨v, hv, hcut⟩ := hcut
      cases v with
      | attr bytes => exact .inr (h ⟨bytes, hv, hcut.1.le, .inr hcut.2⟩)
      | protocol number => exact hcut.elim
    · exact .inl fun v hv hcut' => hcut ⟨v, hv, hcut'⟩
  · rintro (hwhole | hrefused) ⟨bytes, hbytes, hlen, hbad⟩
    · refine ⟨.attr bytes, hbytes, ?_⟩
      have hnot := hwhole _ hbytes
      simp only [CutShort, not_and, not_lt] at hnot
      simp only [Refused, Unreadable]
      omega
    · exact hrefused

/-- An attribute that declares two bytes. -/
theorem malformed_refused_short :
    ∃ err, connectionFromRawData .little [2, 0, 0, 0, 2, 0, 1, 0, 7] = .error err := by
  have hnesting : nesting .little [2, 0, 0, 0, 2, 0, 1, 0, 7] = [.attr [2, 0, 1, 0, 7]] := by
    decide +kernel
  refine (malformed_refused_iff _).mpr (.inl ?_) ⟨[2, 0, 1, 0, 7], ?_, ?_⟩
  · rw [hnesting, List.forall_mem_singleton]
    unfold CutShort
    decide
  · rw [hnesting]
    exact .head _
  · unfold Malformed
    decide

/-- The tuple of a connection from 10.0.0.9 to 10.0.0.2, without the last byte. -/
def truncated : List UInt8 :=
  [2, 0, 0, 0] ++ (Attr.encode .little ⟨CTA_TUPLE_ORIG ||| NLA_F_NESTED,
    Attr.encode .little ⟨CTA_TUPLE_PROTO ||| NLA_F_NESTED, sampleProto.encode .little⟩ ++
      Attr.encode .little ⟨CTA_TUPLE_IP ||| NLA_F_NESTED, sampleIP.encode .little⟩⟩).dropLast

theorem truncated_address_accepted :
    (∃ bytes, .attr bytes ∈ nesting .little truncated ∧ Malformed .little bytes) ∧
      connectionFromRawData .little truncated = .ok (some
        { originalSourceIP := some (.v4 10 0 0 0)
          originalSourcePort := ⟨50000, by decide⟩
          originalDestinationIP := some (.v4 10 0 0 2)
          originalDestinationPort := ⟨80, by decide⟩
          tcpState := .none }) :=
  ⟨⟨truncated.drop 4, by decide +kernel, by unfold Malformed; decide +kernel⟩, by decide +kernel⟩

end Hypeman.AutoStandby.Conntrack
