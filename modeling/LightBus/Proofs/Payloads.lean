import LightBus.DeviceInfo
import LightBus.MuteReply
import LightBus.Proofs.Identifiers

/-!
# Device information and mute replies as bytes

What a device tells about itself has a form in bytes, and is read from it again.  Other bytes that are read are that
form but for what carries no meaning: the version of the protocol, reserved bits, and an identifier of all zeros
(`report_forms_agree`).

* (start addresses) `StartAddress.ofWord?_eq_ok_iff`.
* (device information) `DeviceInfo.ofBytes?_eq_ok_iff`: any version may stand in front of the rest.
* (mute replies) `MuteReply.ofBytes?_eq_ok_iff`: the control field has any reserved bits, and behind it is what
  `MuteReply.BindingField` allows.
-/

namespace LightBus

/-! ### Start addresses -/

namespace StartAddress

/-- A device has no start address, or one that a slot has. -/
def Possible : StartAddress → Prop
  | .none => True
  | .address slot => 1 ≤ slot ∧ slot ≤ 512

theorem ofWord?_eq_ok_iff {w : UInt16} {a : StartAddress} : ofWord? w = .ok a ↔ a.Possible ∧ a.toWord = w := by
  unfold ofWord?
  constructor
  · intro h
    split at h
    · rename_i hnone
      obtain rfl := Except.ok.inj h
      exact ⟨trivial, hnone.symm⟩
    split at h
    · rename_i hslot
      obtain rfl := Except.ok.inj h
      exact ⟨hslot, rfl⟩
    · cases h
  · rintro ⟨hpossible, rfl⟩
    cases a with
    | none => rfl
    | address slot =>
      have hother : slot ≠ 0xFFFF := by
        rintro rfl
        exact absurd hpossible.2 (by decide)
      rw [toWord, if_neg hother, if_pos (show 1 ≤ slot ∧ slot ≤ 512 from hpossible)]

theorem Possible.ofWord?_toWord {a : StartAddress} (h : a.Possible) : ofWord? a.toWord = .ok a :=
  ofWord?_eq_ok_iff.2 ⟨h, rfl⟩

/-- The words that are sent for start addresses. -/
theorem exists_possible_iff {w : UInt16} :
    (∃ a : StartAddress, a.Possible ∧ a.toWord = w) ↔ w.toNat = 0xFFFF ∨ 1 ≤ w.toNat ∧ w.toNat ≤ 512 := by
  constructor
  · rintro ⟨a, hpossible, rfl⟩
    cases a with
    | none => exact .inl rfl
    | address slot => exact .inr ⟨UInt16.le_iff_toNat_le.1 hpossible.1, UInt16.le_iff_toNat_le.1 hpossible.2⟩
  · rintro (hnone | ⟨hfirst, hlast⟩)
    · exact ⟨.none, trivial, (UInt16.toNat_inj.1 hnone).symm⟩
    · exact ⟨.address w, ⟨UInt16.le_iff_toNat_le.2 hfirst, UInt16.le_iff_toNat_le.2 hlast⟩, rfl⟩

end StartAddress

/-! ### Device information -/

namespace DeviceInfo

variable {info : DeviceInfo} {bytes : List UInt8}

private theorem bytes_payload (info : DeviceInfo) :
    info.payload.bytes = [1, 0] ++ (word info.model ++ word info.category ++
    dword info.softwareVersion ++ word info.footprint ++ word info.personality ++ word info.startAddress.toWord ++
    word info.subDevices ++ [info.sensors]) := rfl

/-- What a device tells about itself is read as that, whatever version of the protocol stands in front of it. -/
private theorem ofBytes?_of_version (h : info.startAddress.Possible) (v1 v0 : UInt8) :
    ofBytes? (v1 :: v0 :: info.payload.bytes.drop 2) = .ok info := by
  obtain ⟨model, category, softwareVersion, footprint, personality, startAddress, subDevices, sensors⟩ := info
  obtain ⟨m1, m0, hmodel, hmodel'⟩ := exists_word model
  obtain ⟨c1, c0, hcategory, hcategory'⟩ := exists_word category
  obtain ⟨d3, d2, d1, d0, hversion, hversion'⟩ := exists_dword softwareVersion
  obtain ⟨f1, f0, hfootprint, hfootprint'⟩ := exists_word footprint
  obtain ⟨p1, p0, hpersonality, hpersonality'⟩ := exists_word personality
  obtain ⟨a1, a0, haddress, haddress'⟩ := exists_word startAddress.toWord
  obtain ⟨s1, s0, hsubDevices, hsubDevices'⟩ := exists_word subDevices
  have hread : StartAddress.ofWord? (wordOf a1 a0) = .ok startAddress := by
    rw [haddress']
    exact h.ofWord?_toWord
  rw [bytes_payload, hmodel, hcategory, hversion, hfootprint, hpersonality, haddress, hsubDevices]
  show (StartAddress.ofWord? (wordOf a1 a0) >>= fun startAddress => pure _) = _
  rw [hread, hmodel', hcategory', hversion', hfootprint', hpersonality', hsubDevices']
  rfl

theorem ofBytes?_payload (h : info.startAddress.Possible) : ofBytes? info.payload.bytes = .ok info :=
  ofBytes?_of_version h 1 0

/-- The bytes that are read are those that are written, behind any version of the protocol. -/
theorem ofBytes?_eq_ok_iff : ofBytes? bytes = .ok info ↔
    info.startAddress.Possible ∧ ∃ v1 v0, bytes = v1 :: v0 :: info.payload.bytes.drop 2 := by
  constructor
  · intro h
    unfold ofBytes? at h
    split at h
    case h_2 => cases h
    rename_i v1 v0 m1 m0 c1 c0 d3 d2 d1 d0 f1 f0 p1 p0 a1 a0 s1 s0 sensors
    cases haddress : StartAddress.ofWord? (wordOf a1 a0) with
    | error e =>
      rw [haddress] at h
      cases h
    | ok startAddress =>
      rw [haddress] at h
      obtain rfl := Except.ok.inj h
      obtain ⟨hpossible, hword⟩ := StartAddress.ofWord?_eq_ok_iff.1 haddress
      refine ⟨hpossible, v1, v0, ?_⟩
      simp only [bytes_payload, hword, word_wordOf, dword_dwordOf]
      rfl
  · rintro ⟨hpossible, v1, v0, rfl⟩
    exact ofBytes?_of_version hpossible v1 v0

/-- Nineteen bytes are read if two of them are those of a start address. -/
theorem exists_ofBytes?_iff : (∃ info, ofBytes? bytes = .ok info) ↔ bytes.length = deviceInfoSize ∧
    (numberOf (slice bytes 14 2) = 0xFFFF ∨ 1 ≤ numberOf (slice bytes 14 2) ∧ numberOf (slice bytes 14 2) ≤ 512) := by
  constructor
  · rintro ⟨info, h⟩
    obtain ⟨hpossible, v1, v0, rfl⟩ := ofBytes?_eq_ok_iff.1 h
    have hslice : slice (v1 :: v0 :: info.payload.bytes.drop 2) 14 2 = word info.startAddress.toWord := rfl
    rw [hslice, numberOf_word]
    exact ⟨rfl, StartAddress.exists_possible_iff.1 ⟨_, hpossible, rfl⟩⟩
  · rintro ⟨hlength, haddress⟩
    match bytes, hlength with
    | [_, _, _, _, _, _, _, _, _, _, _, _, _, _, a1, a0, _, _, _], _ =>
      have hslice : numberOf [a1, a0] = (wordOf a1 a0).toNat := by rw [← word_wordOf, numberOf_word]
      obtain ⟨a, hpossible, hword⟩ := StartAddress.exists_possible_iff.2 (hslice ▸ haddress)
      have hread : StartAddress.ofWord? (wordOf a1 a0) = .ok a := StartAddress.ofWord?_eq_ok_iff.2 ⟨hpossible, hword⟩
      rw [ofBytes?, hread]
      exact ⟨_, rfl⟩

end DeviceInfo

/-! ### Mute replies -/

theorem Uid.bytes_eq_zeros_iff {uid : Uid} : uid.bytes = List.replicate 6 0 ↔ uid.isNull = true := by
  constructor
  · intro h
    obtain rfl : uid = ⟨0, 0⟩ := bytes_inj h
    rfl
  · intro h
    obtain ⟨hm, hd⟩ : uid.manufacturer = 0 ∧ uid.device = 0 := by simpa [isNull] using h
    rw [bytes, hm, hd]
    rfl

private theorem Uid.bytes_null : bytes ⟨0, 0⟩ = List.replicate 6 0 := bytes_eq_zeros_iff.2 rfl

/-- An identifier has the bytes of a broadcast if its device number is all ones. -/
theorem Address.exists_broadcast_iff {uid : Uid} :
    (∃ address : Address, address.isBroadcast = true ∧ uid.bytes = address.bytes) ↔ uid.device = 0xFFFFFFFF := by
  constructor
  · rintro ⟨address, hbroadcast, hbytes⟩
    obtain rfl : uid = address.uid := Uid.bytes_inj hbytes
    cases address with
    | broadcast | manufacturer => rfl
    | device => cases hbroadcast
  · intro h
    refine ⟨.manufacturer uid.manufacturer, rfl, ?_⟩
    rw [Uid.bytes, h]
    rfl

namespace MuteReply

variable {reply : MuteReply} {bytes field : List UInt8} {binding : Option Uid}

/-- What may stand behind the control field, and the binding identifier that it tells. -/
inductive BindingField : List UInt8 → Option Uid → Prop
  | absent : BindingField [] none
  | null : BindingField (List.replicate 6 0) none
  | told {uid : Uid} (hdevice : uid.device ≠ 0xFFFFFFFF) (hnull : uid.isNull = false) :
    BindingField uid.bytes (some uid)

/-- The binding identifier, if there is one, can be a device's and is not the one that stands for none. -/
def Tells (reply : MuteReply) : Prop := ∀ uid, reply.binding = some uid → uid.device ≠ 0xFFFFFFFF ∧ uid.isNull = false

private theorem Tells.bindingField (h : reply.Tells) :
    BindingField ((reply.binding.map Uid.bytes).getD []) reply.binding := by
  cases hbinding : reply.binding with
  | none => exact .absent
  | some uid => exact .told (h uid hbinding).1 (h uid hbinding).2

private theorem BindingField.tells (h : BindingField field reply.binding) : reply.Tells := by
  intro uid hbinding
  rw [hbinding] at h
  cases h with
  | told hdevice hnull => exact ⟨hdevice, hnull⟩

/-- A null identifier is not written. -/
private theorem BindingField.written (h : BindingField field binding) :
    (binding.map Uid.bytes).getD [] = if field = List.replicate 6 0 then [] else field := by
  cases h with
  | absent | null => rfl
  | told _ hnull => rw [if_neg (fun hzeros => by rw [Uid.bytes_eq_zeros_iff.1 hzeros] at hnull; cases hnull)]; rfl

private theorem toNat_flags (reply : MuteReply) : reply.flags.toNat =
    reply.managedProxy.toNat + 2 * reply.subDevice.toNat + 4 * reply.bootLoader.toNat + 8 * reply.proxied.toNat := by
  obtain ⟨managedProxy, subDevice, bootLoader, proxied, binding⟩ := reply
  cases managedProxy <;> cases subDevice <;> cases bootLoader <;> cases proxied <;> rfl

/-- The bits of the control field that have a meaning. -/
private theorem flags_ofFlags (flags : UInt8) (binding : Option Uid) :
    (ofFlags flags binding).flags = flags &&& 0x0F := by
  apply UInt8.toNat_inj.1
  have hlow : (flags &&& 0x0F).toNat = flags.toNat % 16 := by
    rw [UInt8.toNat_and]
    exact Nat.and_two_pow_sub_one_eq_mod _ 4
  rw [hlow, toNat_flags, ofFlags]
  simp only [Nat.toNat_testBit]
  omega

private theorem ofFlags_flags (reply : MuteReply) : ofFlags reply.flags reply.binding = reply := by
  obtain ⟨managedProxy, subDevice, bootLoader, proxied, binding⟩ := reply
  cases managedProxy <;> cases subDevice <;> cases bootLoader <;> cases proxied <;>
    simp [ofFlags, flags, Nat.testBit_eq_decide_div_mod_eq]

private theorem bytes_payload (reply : MuteReply) :
    reply.payload.bytes = 0 :: reply.flags :: (reply.binding.map Uid.bytes).getD [] := by
  cases hbinding : reply.binding with
  | none =>
    rw [payload, hbinding]
    rfl
  | some uid =>
    rw [payload, hbinding]
    rfl

private theorem ofBytes?_of_uid {uid : Uid} (hdevice : uid.device ≠ 0xFFFFFFFF) (reserved flags : UInt8) :
    ofBytes? (reserved :: flags :: uid.bytes) = .ok (ofFlags flags (if uid.isNull then none else some uid)) := by
  obtain ⟨b0, b1, b2, b3, b4, b5, hbytes, huid⟩ := uid.exists_bytes
  have haddress : Address.ofBytes b0 b1 b2 b3 b4 b5 = .device uid := Address.ofBytes_eq_device_iff.2 ⟨huid, hdevice⟩
  rw [hbytes, ofBytes?, haddress]
  rfl

/-- The bytes that are read are a control field and the field of a binding identifier. -/
theorem ofBytes?_eq_ok_iff : ofBytes? bytes = .ok reply ↔ ∃ reserved flags field binding,
    bytes = reserved :: flags :: field ∧ reply = ofFlags flags binding ∧ BindingField field binding := by
  constructor
  · intro h
    unfold ofBytes? at h
    split at h
    · rename_i reserved flags
      exact ⟨reserved, flags, [], none, rfl, (Except.ok.inj h).symm, .absent⟩
    · rename_i reserved flags b0 b1 b2 b3 b4 b5
      cases haddress : Address.ofBytes b0 b1 b2 b3 b4 b5 with
      | broadcast | manufacturer =>
        rw [haddress] at h
        cases h
      | device uid =>
        rw [haddress] at h
        obtain ⟨huid, hdevice⟩ := Address.ofBytes_eq_device_iff.1 haddress
        refine ⟨reserved, flags, uid.bytes, _, by rw [← huid, Uid.bytes_ofBytes], (Except.ok.inj h).symm, ?_⟩
        cases hnull : uid.isNull with
        | true =>
          rw [Uid.bytes_eq_zeros_iff.2 hnull]
          exact .null
        | false => exact .told hdevice hnull
    · cases h
  · rintro ⟨reserved, flags, field, binding, rfl, rfl, hfield⟩
    cases hfield with
    | absent => rfl
    | null =>
      rw [← Uid.bytes_null]
      exact ofBytes?_of_uid (by decide) reserved flags
    | told hdevice hnull => rw [ofBytes?_of_uid hdevice, hnull, if_neg Bool.false_ne_true]

private theorem ofBytes?_payload (h : reply.Tells) : ofBytes? reply.payload.bytes = .ok reply :=
  ofBytes?_eq_ok_iff.2 ⟨0, reply.flags, _, reply.binding, reply.bytes_payload, reply.ofFlags_flags.symm,
    h.bindingField⟩

theorem exists_bindingField_iff : (∃ binding, BindingField field binding) ↔
    field.length = 0 ∨ field.length = 6 ∧ ¬∃ address : Address, address.isBroadcast = true ∧
    field = address.bytes := by
  constructor
  · rintro ⟨binding, h⟩
    cases h with
    | absent => exact .inl rfl
    | null =>
      rw [← Uid.bytes_null, Address.exists_broadcast_iff]
      exact .inr ⟨rfl, by decide⟩
    | told hdevice _ => exact .inr ⟨rfl, fun h => hdevice (Address.exists_broadcast_iff.1 h)⟩
  · rintro (hempty | ⟨hlength, hother⟩)
    · rw [List.length_eq_zero_iff.1 hempty]
      exact ⟨none, .absent⟩
    · match field, hlength with
      | [b0, b1, b2, b3, b4, b5], _ =>
        rw [← Uid.bytes_ofBytes, Address.exists_broadcast_iff] at hother
        rw [← Uid.bytes_ofBytes]
        cases hnull : (Uid.ofBytes b0 b1 b2 b3 b4 b5).isNull with
        | true =>
          rw [Uid.bytes_eq_zeros_iff.2 hnull]
          exact ⟨none, .null⟩
        | false => exact ⟨_, .told hother hnull⟩

/-- A control field is read, alone or in front of an identifier that is no broadcast. -/
theorem exists_ofBytes?_iff : (∃ reply, ofBytes? bytes = .ok reply) ↔ bytes.length = 2 ∨
    bytes.length = 8 ∧ ¬∃ address : Address, address.isBroadcast = true ∧ bytes.drop 2 = address.bytes := by
  constructor
  · rintro ⟨reply, h⟩
    obtain ⟨reserved, flags, field, binding, rfl, -, hfield⟩ := ofBytes?_eq_ok_iff.1 h
    rcases exists_bindingField_iff.1 ⟨binding, hfield⟩ with hempty | ⟨hlength, hother⟩
    · exact .inl (by simp [hempty])
    · exact .inr ⟨by simp [hlength], hother⟩
  · intro h
    have hfield : ∃ reserved flags field, bytes = reserved :: flags :: field := by
      match bytes, h with
      | reserved :: flags :: field, _ => exact ⟨reserved, flags, field, rfl⟩
    obtain ⟨reserved, flags, field, rfl⟩ := hfield
    obtain ⟨binding, hfield⟩ := exists_bindingField_iff.2 (by simpa using h)
    exact ⟨_, ofBytes?_eq_ok_iff.2 ⟨reserved, flags, field, binding, rfl, rfl, hfield⟩⟩

/-- What was read is written without the reserved bits and without an identifier of all zeros. -/
private theorem bytes_payload_of_ofBytes? (h : ofBytes? bytes = .ok reply) : reply.Tells ∧ ∃ reserved flags field,
    bytes = reserved :: flags :: field ∧
      reply.payload.bytes = 0 :: (flags &&& 0x0F) :: if field = List.replicate 6 0 then [] else field := by
  obtain ⟨reserved, flags, field, binding, rfl, rfl, hfield⟩ := ofBytes?_eq_ok_iff.1 h
  refine ⟨hfield.tells, reserved, flags, field, rfl, ?_⟩
  rw [bytes_payload, flags_ofFlags, ← hfield.written]
  rfl

end MuteReply

/-! ### Both -/

/-- What a device tells about itself, and its answer to a mute request, are read from the bytes in which they are
written.  Bytes are read if they have the right length, the start address is one that a device can have, and the
binding identifier is no broadcast.  Written again, they are the same but for the version of the protocol, the twelve
reserved bits of the control field, and an identifier of all zeros, which is left out. -/
theorem report_forms_agree :
    (∀ info : DeviceInfo, info.startAddress.Possible → DeviceInfo.ofBytes? info.payload.bytes = .ok info) ∧
    (∀ bytes, (∃ info, DeviceInfo.ofBytes? bytes = .ok info) ↔ bytes.length = deviceInfoSize ∧
      (numberOf (slice bytes 14 2) = 0xFFFF ∨ 1 ≤ numberOf (slice bytes 14 2) ∧ numberOf (slice bytes 14 2) ≤ 512)) ∧
    (∀ bytes info, DeviceInfo.ofBytes? bytes = .ok info → info.payload.bytes = [1, 0] ++ bytes.drop 2) ∧
    (∀ reply : MuteReply, reply.Tells → MuteReply.ofBytes? reply.payload.bytes = .ok reply) ∧
    (∀ bytes, (∃ reply, MuteReply.ofBytes? bytes = .ok reply) ↔ bytes.length = 2 ∨
      bytes.length = 8 ∧ ¬∃ address : Address, address.isBroadcast = true ∧ bytes.drop 2 = address.bytes) ∧
    ∀ bytes reply, MuteReply.ofBytes? bytes = .ok reply →
      MuteReply.ofBytes? reply.payload.bytes = .ok reply ∧ ∃ reserved flags field,
      bytes = reserved :: flags :: field ∧
        reply.payload.bytes = 0 :: (flags &&& 0x0F) :: if field = List.replicate 6 0 then [] else field := by
  refine ⟨fun _ => DeviceInfo.ofBytes?_payload, fun _ => DeviceInfo.exists_ofBytes?_iff, fun bytes info h => ?_,
    fun _ => MuteReply.ofBytes?_payload, fun _ => MuteReply.exists_ofBytes?_iff, fun bytes reply h => ?_⟩
  · obtain ⟨-, v1, v0, rfl⟩ := DeviceInfo.ofBytes?_eq_ok_iff.1 h
    rfl
  · obtain ⟨htells, hwritten⟩ := MuteReply.bytes_payload_of_ofBytes? h
    exact ⟨MuteReply.ofBytes?_payload htells, hwritten⟩

/-- The last slot as start address, behind a version of the protocol that is not ours; a primary port; and a control
field with reserved bits in front of an identifier of all zeros. -/
theorem report_forms_agree_bound :
    let info : DeviceInfo := ⟨1, 0x0101, 0x01020304, 3, 0x0102, .address 512, 0, 2⟩
    let sent : List UInt8 := [0x7F, 0, 0, 1, 1, 1, 1, 2, 3, 4, 0, 3, 1, 2, 2, 0, 0, 0, 2]
    let reply : MuteReply := { MuteReply.plain with subDevice := true, binding := some ⟨0x4C55, 7⟩ }
    let loose : List UInt8 := [0x80, 0xF9, 0, 0, 0, 0, 0, 0]
    DeviceInfo.ofBytes? info.payload.bytes = .ok info ∧ info.payload.bytes = [1, 0] ++ sent.drop 2 ∧
      MuteReply.ofBytes? reply.payload.bytes = .ok reply ∧
      ∃ tidy : MuteReply, MuteReply.ofBytes? loose = .ok tidy ∧ MuteReply.ofBytes? tidy.payload.bytes = .ok tidy ∧
        tidy.payload.bytes = [0, 9] := by
  intro info sent reply loose
  obtain ⟨hinfo, -, hinfoWritten, hreply, -, hreplyWritten⟩ := report_forms_agree
  have hpossible : info.startAddress.Possible := ⟨by decide, by decide⟩
  have hsent : DeviceInfo.ofBytes? sent = .ok info := rfl
  have htells : reply.Tells := by
    rintro uid ⟨⟩
    decide
  have hloose : MuteReply.ofBytes? loose = .ok (MuteReply.ofFlags 0xF9 none) :=
    MuteReply.ofBytes?_eq_ok_iff.2 ⟨0x80, 0xF9, _, none, rfl, rfl, .null⟩
  obtain ⟨hagain, reserved, flags, field, hbytes, hwritten⟩ := hreplyWritten loose _ hloose
  obtain ⟨rfl, rfl, rfl⟩ : 0x80 = reserved ∧ 0xF9 = flags ∧ List.replicate 6 0 = field := by
    simpa [loose] using hbytes
  exact ⟨hinfo info hpossible, hinfoWritten sent info hsent, hreply reply htells, _, hloose, hagain, hwritten⟩

end LightBus
