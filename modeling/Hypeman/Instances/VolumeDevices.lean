import Hypeman.Instances.GuestConfig

/-!
# The devices of volumes

The host attaches the disks of an instance in the order of `buildHypervisorConfig`
(`lib/instances/create.go`); the guest finds them by names that `buildGuestConfig`
(`lib/instances/configdisk.go`) works out on its own. An overlay volume takes two devices.

* `MountOf`: a mount names the disks of its volume.
* `volumeMounts_aligned`: every mount of accepted volumes does, under names of its own from `d` to
  `z`.
-/

namespace Hypeman.Instances

open Foundations

structure DiskConfig where
  path : String
  readonly : Bool
  ioBps : Int64
  ioBurstBps : Int64
deriving DecidableEq, Repr

/-- The paths that `buildHypervisorConfig` asks for: those of the image, of the instance, of a
volume and of the overlay of a volume. -/
structure DiskPaths where
  rootfs : String
  overlay : String
  config : String
  volume : String → Except String String
  volumeOverlay : String → String

def instanceDiskCount (volumes : List VolumeAttachment) : Nat :=
  volumes.foldl (fun count vol => if vol.overlay then count + 1 + 1 else count + 1) 3

def disksOf (paths : DiskPaths) (ioBps burstBps : Int64) (vol : VolumeAttachment)
    (volumePath : String) : List DiskConfig :=
  if vol.overlay then
    [⟨volumePath, true, ioBps, burstBps⟩,
      ⟨paths.volumeOverlay vol.volumeID, false, ioBps, burstBps⟩]
  else [⟨volumePath, vol.readonly, ioBps, burstBps⟩]

def volumeDisks (paths : DiskPaths) (ioBps burstBps : Int64) :
    List VolumeAttachment → Except String (List DiskConfig)
  | [] => .ok []
  | vol :: vols =>
    match paths.volume vol.volumeID with
    | .error err => .error s!"get volume path: {err}"
    | .ok volumePath =>
      (volumeDisks paths ioBps burstBps vols).map (disksOf paths ioBps burstBps vol volumePath ++ ·)

/-- The burst limit: four times the limit, and none without one. -/
def burstLimit (diskIOBps : Int64) : Int64 := if diskIOBps ≤ 0 then 0 else diskIOBps * 4

/-- The disks of `buildHypervisorConfig`. -/
def buildDisks (paths : DiskPaths) (diskIOBps : Int64) (volumes : List VolumeAttachment) :
    Except String (List DiskConfig) := do
  let burstBps := burstLimit diskIOBps
  let rest ← volumeDisks paths diskIOBps burstBps volumes
  let disks := [⟨paths.rootfs, true, diskIOBps, burstBps⟩,
    ⟨paths.overlay, false, diskIOBps, burstBps⟩, ⟨paths.config, true, diskIOBps, burstBps⟩] ++ rest
  if disks.length ≠ instanceDiskCount volumes then
    .error (s!"internal disk plan mismatch: built {disks.length} disks, " ++
      s!"planned {instanceDiskCount volumes}")
  else return disks

/-- The letter of the disk at place `n`: `/dev/vda`, `/dev/vdb` and so on. -/
def diskLetter (n : Nat) : Char := Char.ofNat ('a'.toNat + n)

/-- The guest can write to the mount. -/
def MountMode.writable : MountMode → Bool
  | .ro => false
  | .rw | .overlay => true

def VolumeMount.devices (mount : VolumeMount) : List Char :=
  mount.device :: mount.overlayDevice.toList

/-- The devices of the mount are the disks of the volume: the one that holds it, and for an overlay
volume the one of its overlay. The guest can write to it as far as one of them can be written. -/
inductive MountOf (paths : DiskPaths) (disks : List DiskConfig) (vol : VolumeAttachment)
    (mount : VolumeMount) : Prop
  | plain {n : Nat} {disk : DiskConfig} (hvol : vol.overlay = false)
      (hdisk : disks[n]? = some disk) (hpath : paths.volume vol.volumeID = .ok disk.path)
      (hdevice : mount.device = diskLetter n) (hoverlay : mount.overlayDevice = none)
      (hwritable : mount.mode.writable = !disk.readonly)
  | overlay {n m : Nat} {base upper : DiskConfig} (hvol : vol.overlay = true)
      (hbase : disks[n]? = some base) (hpath : paths.volume vol.volumeID = .ok base.path)
      (hupper : disks[m]? = some upper) (hupperPath : upper.path = paths.volumeOverlay vol.volumeID)
      (hdevice : mount.device = diskLetter n) (hoverlay : mount.overlayDevice = some (diskLetter m))
      (hwritable : mount.mode.writable = (!base.readonly || !upper.readonly))

variable {paths : DiskPaths} {ioBps burstBps : Int64} {vols : List VolumeAttachment}

theorem deviceLetter_eq (i : Nat) : deviceLetter i = diskLetter (3 + i) :=
  congrArg Char.ofNat (Nat.add_assoc 97 3 i)

theorem volumeDisks_cons {vol : VolumeAttachment} {disks : List DiskConfig}
    (h : volumeDisks paths ioBps burstBps (vol :: vols) = .ok disks) :
    ∃ volumePath rest, paths.volume vol.volumeID = .ok volumePath ∧
      volumeDisks paths ioBps burstBps vols = .ok rest ∧
      disks = disksOf paths ioBps burstBps vol volumePath ++ rest := by
  unfold volumeDisks at h
  split at h
  · cases h
  · next volumePath hpath =>
    obtain ⟨rest, hrest, rfl⟩ := map_eq_ok.mp h
    exact ⟨volumePath, rest, hpath, hrest, rfl⟩

/-- The two loops stay together: the volumes from index `i` on, after the disks before them. -/
theorem volumeMounts_mountOf {rest : List DiskConfig}
    (h : volumeDisks paths ioBps burstBps vols = .ok rest) (before : List DiskConfig) (i : Nat)
    (hbefore : before.length = 3 + i) :
    List.Forall₂ (MountOf paths (before ++ rest)) vols (volumeMounts i vols) := by
  induction vols generalizing rest before i with
  | nil => exact .nil
  | cons vol vols ih =>
    obtain ⟨volumePath, rest, hpath, hrest, rfl⟩ := volumeDisks_cons h
    -- the disks of this volume come right after those before
    have hplace (k : Nat) : (before ++ (disksOf paths ioBps burstBps vol volumePath ++ rest))[
        3 + (i + k)]? = (disksOf paths ioBps burstBps vol volumePath ++ rest)[k]? := by
      rw [List.getElem?_append_right (by omega)]
      congr 1
      omega
    rw [volumeMounts]
    split
    · next hvol =>
      have hdisks : disksOf paths ioBps burstBps vol volumePath =
          [⟨volumePath, true, ioBps, burstBps⟩,
            ⟨paths.volumeOverlay vol.volumeID, false, ioBps, burstBps⟩] := if_pos hvol
      rw [hdisks] at hplace ⊢
      refine .cons (.overlay hvol (hplace 0) hpath (hplace 1) rfl (deviceLetter_eq i)
        (congrArg some (deviceLetter_eq (i + 1))) rfl) ?_
      rw [← List.append_assoc]
      refine ih hrest _ (i + 2) ?_
      rw [List.length_append, hbefore]
      rfl
    · next hvol =>
      have hdisks : disksOf paths ioBps burstBps vol volumePath =
          [⟨volumePath, vol.readonly, ioBps, burstBps⟩] := if_neg hvol
      rw [hdisks] at hplace ⊢
      refine .cons (.plain (by simpa using hvol) (hplace 0) hpath (deviceLetter_eq i) rfl ?_) ?_
      · cases vol.readonly <;> rfl
      · rw [← List.append_assoc]
        refine ih hrest _ (i + 1) ?_
        rw [List.length_append, hbefore]
        rfl

/-- The devices of the mounts are named one after the other. -/
theorem devices_volumeMounts (i : Nat) (vols : List VolumeAttachment) :
    (volumeMounts i vols).flatMap VolumeMount.devices =
      (List.range' i (totalDevices vols)).map deviceLetter := by
  induction vols generalizing i with
  | nil => rfl
  | cons vol vols ih =>
    have htotal : totalDevices (vol :: vols) =
        totalDevices vols + if vol.overlay then 2 else 1 := by
      rw [totalDevices, List.map_cons, List.sum_cons, Nat.add_comm]
      rfl
    rw [volumeMounts, htotal]
    split
    · rw [List.flatMap_cons, ih, List.range'_succ, List.range'_succ]
      rfl
    · rw [List.flatMap_cons, ih, List.range'_succ]
      rfl

/-- The letters of 23 devices are distinct, and from `d` to `z`. -/
theorem deviceLetters :
    ((List.range 23).map deviceLetter).Nodup ∧
      ((List.range 23).map deviceLetter).all (fun c => 'd' ≤ c && c ≤ 'z') = true := by
  decide +kernel

theorem totalDevices_le {lib : StdLib} {allowSystemVolumes : Bool} {systemPaths : List String}
    (h : validateVolumeAttachments lib vols allowSystemVolumes systemPaths = .ok ()) :
    totalDevices vols ≤ 23 := by
  unfold validateVolumeAttachments at h
  split at h
  · cases h
  · next hle => exact not_lt.mp hle

theorem buildDisks_eq_ok {disks : List DiskConfig} (h : buildDisks paths ioBps vols = .ok disks) :
    ∃ before rest, volumeDisks paths ioBps (burstLimit ioBps) vols = .ok rest ∧
      before.length = 3 ∧ disks = before ++ rest := by
  obtain ⟨rest, hrest, h⟩ := bind_eq_ok.mp h
  dsimp only at h
  split at h
  · cases h
  · cases h
    exact ⟨_, rest, hrest, rfl, rfl⟩

/-- For accepted volumes each mount of the guest names the disks of its volume, no two devices have
the same name, and each is called by a letter from `d` to `z`. -/
theorem volumeMounts_aligned {lib : StdLib} {allowSystemVolumes : Bool} {systemPaths : List String}
    (inst : GuestInstance) (image : Image) (netConfig : Option Network.NetworkConfig)
    (proxyCfg : Option EgressProxy.GuestConfig) {disks : List DiskConfig}
    (haccepted : validateVolumeAttachments lib inst.volumes allowSystemVolumes systemPaths = .ok ())
    (hdisks : buildDisks paths ioBps inst.volumes = .ok disks) :
    List.Forall₂ (MountOf paths disks) inst.volumes
      (buildGuestConfig lib inst image netConfig proxyCfg).volumeMounts ∧
    ((buildGuestConfig lib inst image netConfig proxyCfg).volumeMounts.flatMap
      VolumeMount.devices).Nodup ∧
    ∀ c ∈ (buildGuestConfig lib inst image netConfig proxyCfg).volumeMounts.flatMap
      VolumeMount.devices, 'd' ≤ c ∧ c ≤ 'z' := by
  change List.Forall₂ _ _ (volumeMounts 0 inst.volumes) ∧
    ((volumeMounts 0 inst.volumes).flatMap VolumeMount.devices).Nodup ∧
    ∀ c ∈ (volumeMounts 0 inst.volumes).flatMap VolumeMount.devices, 'd' ≤ c ∧ c ≤ 'z'
  obtain ⟨before, rest, hrest, hbefore, rfl⟩ := buildDisks_eq_ok hdisks
  have hletters : ((volumeMounts 0 inst.volumes).flatMap VolumeMount.devices).Sublist
      ((List.range 23).map deviceLetter) := by
    rw [devices_volumeMounts, ← List.range_eq_range']
    exact (List.range_sublist.mpr (totalDevices_le haccepted)).map deviceLetter
  refine ⟨volumeMounts_mountOf hrest before 0 hbefore, deviceLetters.1.sublist hletters, ?_⟩
  intro c hc
  simpa using List.all_eq_true.mp deviceLetters.2 c (hletters.mem hc)

def samplePaths : DiskPaths where
  rootfs := "/images/rootfs.ext4"
  overlay := "/guests/i1/overlay.raw"
  config := "/guests/i1/config.ext4"
  volume id := .ok ("/volumes/" ++ id ++ "/data.raw")
  volumeOverlay id := "/guests/i1/vol-overlays/" ++ id ++ ".raw"

/-- An instance with an overlay volume and one that is written directly. -/
def sampleInstance : GuestInstance :=
  ⟨[], [], ∅, false, ∅, [⟨"v1", "/data", true, true, 1024⟩, ⟨"v2", "/scratch", false, false, 0⟩],
    false, false, false⟩

theorem volumeMounts_aligned_sample :
    (volumeMounts 0 sampleInstance.volumes).map VolumeMount.devices = [['d', 'e'], ['f']] ∧
      ∃ disks, buildDisks samplePaths 0 sampleInstance.volumes = .ok disks ∧
        List.Forall₂ (MountOf samplePaths disks) sampleInstance.volumes
          (buildGuestConfig plainStd sampleInstance bareImage none none).volumeMounts := by
  obtain ⟨disks, hdisks⟩ : ∃ disks, buildDisks samplePaths 0 sampleInstance.volumes = .ok disks :=
    exists_of_isOk (by decide +kernel)
  have haccepted : validateVolumeAttachments plainStd sampleInstance.volumes false [] = .ok () := by
    obtain ⟨⟨⟩, h⟩ := exists_of_isOk (x := validateVolumeAttachments plainStd
      sampleInstance.volumes false []) (by decide +kernel)
    exact h
  exact ⟨by decide +kernel, disks, hdisks,
    (volumeMounts_aligned sampleInstance bareImage none none haccepted hdisks).1⟩

end Hypeman.Instances
