import Mathlib.Data.Finset.Basic
import ChromiumIos.Lib.Machine

/-!
# `PhysicalWebScanner`

`physical_web_scanner.mm`: a beacon that is discovered is an unresolved device until
network requests are enabled, then a request for its metadata, and a resolved device
once that is answered. A URL that was seen is not taken up again.

- `tracked`: the URLs of the devices and requests there are.
- `tracked_once_step`: what each step needs for every seen URL to be tracked once.
- `seen_tracked_once_iff`: this is exactly what a whole run needs.
-/

namespace ChromiumIos

open Lib List

/-- A point in time, in seconds. -/
abbrev NSDate := Rat

def kLostThresholdSeconds : Rat := 15

inductive BeaconType
  | none
  | uriBeacon
  | eddystone
deriving DecidableEq, Repr

/-- The service data of an advertisement, by the UUIDs of the two services. -/
structure AdvertisementData where
  uriBeaconService : Option (List UInt8)
  eddystoneBeaconService : Option (List UInt8)
deriving DecidableEq, Repr

structure PhysicalWebDevice (NSURL : Type) where
  url : NSURL
  requestURL : NSURL
  scanTimestamp : NSDate
deriving DecidableEq, Repr

structure PhysicalWebScanner (NSURL : Type) where
  started : Bool
  pendingStart : Bool
  /-- The devices of the requests that wait for their response. -/
  pendingRequests : List (PhysicalWebDevice NSURL)
  devices : List (PhysicalWebDevice NSURL)
  devicesUrls : Finset NSURL
  finalUrls : Finset NSURL
  /-- Whether the state of the central manager is powered on. -/
  bluetoothEnabled : Bool
  onLostDetectionEnabled : Bool
  networkRequestEnabled : Bool
  unresolvedDevices : List (PhysicalWebDevice NSURL)
  /-- Whether the timer is there. -/
  updateTimer : Bool
deriving DecidableEq

namespace PhysicalWebScanner

variable {NSURL : Type} [DecidableEq NSURL]

def initWithDelegate (bluetoothEnabled : Bool) : PhysicalWebScanner NSURL where
  started := false
  pendingStart := false
  pendingRequests := []
  devices := []
  devicesUrls := ∅
  finalUrls := ∅
  bluetoothEnabled
  onLostDetectionEnabled := false
  networkRequestEnabled := false
  unresolvedDevices := []
  updateTimer := false

/-! ## Methods -/

variable (s : PhysicalWebScanner NSURL)

omit [DecidableEq NSURL] in
def reallyStart : PhysicalWebScanner NSURL :=
  { s with pendingStart := false, updateTimer := s.onLostDetectionEnabled }

omit [DecidableEq NSURL] in
def stop : PhysicalWebScanner NSURL :=
  if s.started then { s with pendingRequests := [], pendingStart := false, started := false }
  else s

omit [DecidableEq NSURL] in
def start : PhysicalWebScanner NSURL :=
  let s := { s.stop with finalUrls := ∅, devicesUrls := ∅, devices := [], started := true }
  if s.bluetoothEnabled then s.reallyStart else { s with pendingStart := true }

/-- `requestMetadataForDevice:`, up to the response. -/
def requestMetadataForDevice (device : PhysicalWebDevice NSURL) : PhysicalWebScanner NSURL :=
  { s with pendingRequests := s.pendingRequests ++ [device] }

def setNetworkRequestEnabled (enabled : Bool) : PhysicalWebScanner NSURL :=
  if s.networkRequestEnabled = enabled then s
  else
    let s := { s with networkRequestEnabled := enabled }
    if !enabled then s
    else
      { s.unresolvedDevices.foldl requestMetadataForDevice s with unresolvedDevices := [] }

def setOnLostDetectionEnabled (enabled : Bool) : PhysicalWebScanner NSURL :=
  if enabled = s.onLostDetectionEnabled then s
  else
    let s := { s with onLostDetectionEnabled := enabled }
    if s.started then s.start else s

/-- Whether the device was last seen too long ago. -/
def isLost (now : NSDate) (device : PhysicalWebDevice NSURL) : Bool :=
  kLostThresholdSeconds < now - device.scanTimestamp

def onUpdateTimeElapsed (now : NSDate) : PhysicalWebScanner NSURL :=
  let lostDevices := s.devices.filter (isLost now)
  let lostUnresolvedDevices := s.unresolvedDevices.filter (isLost now)
  let lostScannedUrls := (lostDevices ++ lostUnresolvedDevices).map PhysicalWebDevice.requestURL
  let s := { s with
    devicesUrls := s.devicesUrls.filter (· ∉ lostScannedUrls)
    finalUrls := s.finalUrls.filter (· ∉ lostDevices.map PhysicalWebDevice.url)
    devices := s.devices.filter (!isLost now ·)
    unresolvedDevices := s.unresolvedDevices.filter (!isLost now ·)
    pendingRequests := s.pendingRequests.filter (·.requestURL ∉ lostScannedUrls) }
  if s.updateTimer && s.pendingStart && s.devices.length = 0 then { s with updateTimer := false }
  else s

def centralManagerDidUpdateState (bluetoothEnabled : Bool) : PhysicalWebScanner NSURL :=
  let s := { s with bluetoothEnabled }
  if bluetoothEnabled then if s.pendingStart then s.reallyStart else s
  else if s.started && !s.pendingStart then { s with pendingStart := true }
  else s

def beaconTypeForAdvertisementData (advertisementData : AdvertisementData) : BeaconType :=
  if advertisementData.uriBeaconService.isSome then .uriBeacon
  else if advertisementData.eddystoneBeaconService.isSome then .eddystone
  else .none

/-- `newDeviceFromData:rssi:type:`. `decode` is `DecodeUriBeaconUri` followed by
`URLWithString:`. -/
def newDeviceFromData (decode : List UInt8 → Option NSURL) (now : NSDate)
    (data : Option (List UInt8)) (type : BeaconType) : Option (PhysicalWebDevice NSURL) :=
  match data with
  | some (byte0 :: _ :: encodedURI) =>
    if encodedURI = [] then none
    else if type = .eddystone ∧ byte0 &&& 0xf0 ≠ 0x10 then none
    else (decode encodedURI).map fun url => ⟨url, url, now⟩
  | _ => none

/-- The device that an advertisement is about. -/
def advertisedDevice (decode : List UInt8 → Option NSURL) (now : NSDate)
    (advertisementData : AdvertisementData) : Option (PhysicalWebDevice NSURL) :=
  match beaconTypeForAdvertisementData advertisementData with
  | .none => none
  | .uriBeacon =>
    newDeviceFromData decode now advertisementData.uriBeaconService .uriBeacon
  | .eddystone =>
    newDeviceFromData decode now advertisementData.eddystoneBeaconService .eddystone

/-- Sets the timestamp of the first device with the URL. -/
def setScanTimestamp (requestURL : NSURL) (now : NSDate) :
    List (PhysicalWebDevice NSURL) → List (PhysicalWebDevice NSURL)
  | [] => []
  | device :: rest =>
    if device.requestURL = requestURL then { device with scanTimestamp := now } :: rest
    else device :: setScanTimestamp requestURL now rest

/-- `centralManager:didDiscoverPeripheral:advertisementData:RSSI:`, once there is a
device. -/
def didDiscover (device : PhysicalWebDevice NSURL) : PhysicalWebScanner NSURL :=
  if device.requestURL ∈ s.devicesUrls then
    if s.unresolvedDevices.any (·.requestURL = device.requestURL) then
      { s with
        unresolvedDevices :=
          setScanTimestamp device.requestURL device.scanTimestamp s.unresolvedDevices }
    else
      { s with devices := setScanTimestamp device.requestURL device.scanTimestamp s.devices }
  else
    let s := { s with devicesUrls := insert device.requestURL s.devicesUrls }
    if s.networkRequestEnabled then s.requestMetadataForDevice device
    else { s with unresolvedDevices := s.unresolvedDevices ++ [device] }

/-- The response for a pending request: an error, or the URL it resolves to. -/
def requestFinished (index : Nat) (resolved : Option NSURL) : PhysicalWebScanner NSURL :=
  match s.pendingRequests[index]? with
  | none => s
  | some request =>
    let s := { s with pendingRequests := s.pendingRequests.eraseIdx index }
    match resolved with
    | none => s
    | some url =>
      if url ∈ s.finalUrls then s
      else
        { s with
          devices := s.devices ++ [{ request with url }]
          finalUrls := insert url s.finalUrls }

/-! ## Runs -/

inductive Op (NSURL : Type)
  | start
  | stop
  | setNetworkRequestEnabled (enabled : Bool)
  | setOnLostDetectionEnabled (enabled : Bool)
  | onUpdateTimeElapsed (now : NSDate)
  | centralManagerDidUpdateState (bluetoothEnabled : Bool)
  | didDiscoverPeripheral (advertisementData : AdvertisementData) (now : NSDate)
  | requestFinished (index : Nat) (resolved : Option NSURL)
deriving DecidableEq

def step (decode : List UInt8 → Option NSURL) (s : PhysicalWebScanner NSURL) :
    Op NSURL → PhysicalWebScanner NSURL
  | .start => s.start
  | .stop => s.stop
  | .setNetworkRequestEnabled enabled => s.setNetworkRequestEnabled enabled
  | .setOnLostDetectionEnabled enabled => s.setOnLostDetectionEnabled enabled
  | .onUpdateTimeElapsed now => s.onUpdateTimeElapsed now
  | .centralManagerDidUpdateState bluetoothEnabled =>
    s.centralManagerDidUpdateState bluetoothEnabled
  | .didDiscoverPeripheral advertisementData now =>
    match advertisedDevice decode now advertisementData with
    | none => s
    | some device => s.didDiscover device
  | .requestFinished index resolved => s.requestFinished index resolved

/-- The timer fires while it is there, and a request is answered while it waits. -/
def Op.Pre : Op NSURL → Prop
  | .onUpdateTimeElapsed _ => s.updateTimer = true
  | .requestFinished index _ => index < s.pendingRequests.length
  | _ => True

instance : ∀ op : Op NSURL, Decidable (op.Pre s)
  | .onUpdateTimeElapsed _ => decEq _ _
  | .requestFinished .. => Nat.decLt _ _
  | .start | .stop | .setNetworkRequestEnabled _ | .setOnLostDetectionEnabled _
  | .centralManagerDidUpdateState _ | .didDiscoverPeripheral .. => instDecidableTrue

abbrev machine (decode : List UInt8 → Option NSURL) :
    Machine (PhysicalWebScanner NSURL) (Op NSURL) where
  Pre s op := op.Pre s
  step s op := s.step decode op

/-- The URLs of the unresolved devices, the pending requests and the resolved
devices. -/
def tracked : List NSURL :=
  (s.unresolvedDevices ++ s.pendingRequests ++ s.devices).map PhysicalWebDevice.requestURL

/-- Every URL that was seen is that of one device or request. -/
def SeenTrackedOnce : Prop :=
  ∀ url ∈ s.devicesUrls, s.tracked.count url = 1

/-- What a step needs to leave every seen URL tracked once. -/
def KeepsTrack (decode : List UInt8 → Option NSURL) (s : PhysicalWebScanner NSURL) :
    Op NSURL → Prop
  /- no request that is cancelled is for a seen URL -/
  | .stop => s.started = true → ∀ request ∈ s.pendingRequests, request.requestURL ∉ s.devicesUrls
  /- a URL that was not seen is not tracked, as one is that was before a restart -/
  | .didDiscoverPeripheral advertisementData now =>
    ∀ device ∈ advertisedDevice decode now advertisementData,
      device.requestURL ∈ s.devicesUrls ∨ device.requestURL ∉ s.tracked
  /- a request for a seen URL brings a URL that is not there yet -/
  | .requestFinished index resolved =>
    (∀ url ∈ resolved, url ∈ s.finalUrls) → ∀ request ∈ s.pendingRequests[index]?,
      request.requestURL ∉ s.devicesUrls
  | _ => True

instance (decode : List UInt8 → Option NSURL) (s : PhysicalWebScanner NSURL) :
    ∀ op : Op NSURL, Decidable (KeepsTrack decode s op)
  | .stop => instDecidableForall
  | .didDiscoverPeripheral advertisementData now =>
    inferInstanceAs (Decidable (∀ device ∈ advertisedDevice decode now advertisementData,
      device.requestURL ∈ s.devicesUrls ∨ device.requestURL ∉ s.tracked))
  | .requestFinished _ _ => instDecidableForall
  | .start | .setNetworkRequestEnabled _ | .setOnLostDetectionEnabled _ | .onUpdateTimeElapsed _
  | .centralManagerDidUpdateState _ => instDecidableTrue

/-! ## What is tracked after a step -/

section Steps

variable {s s' : PhysicalWebScanner NSURL}

/-- What is tracked, in another order. -/
theorem SeenTrackedOnce.congr (h : s.SeenTrackedOnce) (hseen : s'.devicesUrls = s.devicesUrls)
    (htracked : s'.tracked.Perm s.tracked) : s'.SeenTrackedOnce := by
  intro url hurl
  rw [htracked.count_eq]
  exact h url (hseen ▸ hurl)

/-- What is no longer tracked must not be a URL that was seen. -/
theorem seenTrackedOnce_iff_of_dropped (h : s.SeenTrackedOnce)
    (hseen : s'.devicesUrls = s.devicesUrls) {dropped : List NSURL}
    (htracked : s.tracked.Perm (dropped ++ s'.tracked)) :
    s'.SeenTrackedOnce ↔ ∀ url ∈ dropped, url ∉ s.devicesUrls := by
  have hcount : ∀ url ∈ s.devicesUrls, dropped.count url + s'.tracked.count url = 1 := by
    intro url hurl
    rw [← count_append, ← htracked.count_eq]
    exact h url hurl
  constructor
  · intro hafter url hdropped hurl
    have hone := hafter url (hseen ▸ hurl)
    have hpos := count_pos_iff.2 hdropped
    have hboth := hcount url hurl
    omega
  · intro hnone url hurl
    rw [hseen] at hurl
    have hzero : dropped.count url = 0 :=
      count_eq_zero.2 fun hdropped => hnone url hdropped hurl
    have hboth := hcount url hurl
    omega

/-- A URL is seen and tracked from now on. -/
theorem seenTrackedOnce_iff_of_added (h : s.SeenTrackedOnce) {added : NSURL}
    (hnew : added ∉ s.devicesUrls) (hseen : s'.devicesUrls = insert added s.devicesUrls)
    (htracked : s'.tracked.Perm (added :: s.tracked)) :
    s'.SeenTrackedOnce ↔ added ∉ s.tracked := by
  constructor
  · intro hafter
    have hone := hafter added (hseen ▸ Finset.mem_insert_self ..)
    rw [htracked.count_eq, count_cons_self] at hone
    exact count_eq_zero.1 (Nat.succ.inj hone)
  · intro hnone url hurl
    rw [htracked.count_eq]
    rw [hseen, Finset.mem_insert] at hurl
    obtain rfl | hurl := hurl
    · rw [count_cons_self, count_eq_zero.2 hnone]
    · have hne : added ≠ url := by
        rintro rfl
        exact hnew hurl
      rw [count_cons_of_ne hne]
      exact h url hurl

omit [DecidableEq NSURL] in
theorem foldl_requestMetadata (devices : List (PhysicalWebDevice NSURL))
    (s : PhysicalWebScanner NSURL) :
    devices.foldl requestMetadataForDevice s =
      { s with pendingRequests := s.pendingRequests ++ devices } := by
  induction devices generalizing s with
  | nil => rw [foldl_nil, append_nil]
  | cons device devices ih =>
    rw [foldl_cons, ih, requestMetadataForDevice, append_assoc]
    rfl

theorem map_setScanTimestamp (requestURL : NSURL) (now : NSDate)
    (devices : List (PhysicalWebDevice NSURL)) :
    (setScanTimestamp requestURL now devices).map PhysicalWebDevice.requestURL =
      devices.map PhysicalWebDevice.requestURL := by
  induction devices with
  | nil => rfl
  | cons device devices ih =>
    rw [setScanTimestamp]
    split
    · rfl
    · rw [map_cons, map_cons, ih]

/-- Devices of other URLs do not matter. -/
theorem count_map_filter {p : PhysicalWebDevice NSURL → Bool} {url : NSURL}
    {devices : List (PhysicalWebDevice NSURL)}
    (h : ∀ device ∈ devices, device.requestURL = url → p device = true) :
    ((devices.filter p).map PhysicalWebDevice.requestURL).count url =
      (devices.map PhysicalWebDevice.requestURL).count url := by
  induction devices with
  | nil => rfl
  | cons device devices ih =>
    obtain ⟨hdevice, hrest⟩ := forall_mem_cons.1 h
    by_cases hp : p device = true
    · rw [filter_cons_of_pos hp, map_cons, map_cons, count_cons,
        count_cons, ih hrest]
    · rw [filter_cons_of_neg hp, map_cons,
        count_cons_of_ne fun heq => hp (hdevice heq), ih hrest]

omit [DecidableEq NSURL] in
theorem devicesUrls_start (s : PhysicalWebScanner NSURL) : s.start.devicesUrls = ∅ := by
  rw [start]
  split <;> rfl

theorem seenTrackedOnce_start (s : PhysicalWebScanner NSURL) : s.start.SeenTrackedOnce := by
  intro url hurl
  rw [devicesUrls_start] at hurl
  exact absurd hurl (Finset.notMem_empty url)

section

variable (h : s.SeenTrackedOnce)
include h

theorem seenTrackedOnce_stop_iff : s.stop.SeenTrackedOnce ↔
      (s.started = true → ∀ request ∈ s.pendingRequests, request.requestURL ∉ s.devicesUrls) := by
  rw [stop]
  split
  · next hstarted =>
    have htracked : s.tracked.Perm (s.pendingRequests.map PhysicalWebDevice.requestURL ++
        (s.unresolvedDevices ++ [] ++ s.devices).map PhysicalWebDevice.requestURL) := by
      rw [tracked, ← map_append, append_nil, ← append_assoc]
      exact (perm_append_comm.append_right _).map _
    refine Iff.trans (seenTrackedOnce_iff_of_dropped h (by rfl) htracked) ?_
    rw [forall_mem_map]
    exact ⟨fun hnone _ => hnone, fun hnone => hnone hstarted⟩
  · next hstarted => exact iff_of_true h fun hstart => absurd hstart hstarted

theorem seenTrackedOnce_setNetworkRequestEnabled (enabled : Bool) :
    (s.setNetworkRequestEnabled enabled).SeenTrackedOnce := by
  rw [setNetworkRequestEnabled]
  split
  · exact h
  · dsimp only
    split
    · exact h
    · rw [foldl_requestMetadata]
      refine h.congr rfl ?_
      simp only [tracked, nil_append]
      exact (perm_append_comm.append_right _).map _

theorem seenTrackedOnce_setOnLostDetectionEnabled (enabled : Bool) :
    (s.setOnLostDetectionEnabled enabled).SeenTrackedOnce := by
  rw [setOnLostDetectionEnabled]
  split
  · exact h
  · dsimp only
    split
    · exact seenTrackedOnce_start _
    · exact h

/-- A lost URL is no longer a seen one; nothing else changes for the others. -/
theorem seenTrackedOnce_onUpdateTimeElapsed (now : NSDate) :
    (s.onUpdateTimeElapsed now).SeenTrackedOnce := by
  have hcount : ∀ url ∈ (s.onUpdateTimeElapsed now).devicesUrls, url ∈ s.devicesUrls ∧
      (s.onUpdateTimeElapsed now).tracked.count url = s.tracked.count url := by
    intro url hurl
    have hsame : (s.onUpdateTimeElapsed now).devicesUrls = s.devicesUrls.filter
        (· ∉ (s.devices.filter (isLost now) ++ s.unresolvedDevices.filter (isLost now)).map
          PhysicalWebDevice.requestURL) ∧
        (s.onUpdateTimeElapsed now).tracked =
          (s.unresolvedDevices.filter (!isLost now ·) ++ s.pendingRequests.filter (·.requestURL ∉
            (s.devices.filter (isLost now) ++ s.unresolvedDevices.filter (isLost now)).map
              PhysicalWebDevice.requestURL) ++ s.devices.filter (!isLost now ·)).map
            PhysicalWebDevice.requestURL := by
      rw [onUpdateTimeElapsed]
      dsimp only
      split <;> exact ⟨rfl, rfl⟩
    rw [hsame.1, Finset.mem_filter] at hurl
    obtain ⟨hseen, hlost⟩ := hurl
    have hkept : ∀ device ∈ s.devices ++ s.unresolvedDevices, device.requestURL = url →
        (!isLost now device) = true := by
      rintro device hdevice rfl
      rw [Bool.not_eq_true', Bool.eq_false_iff]
      intro hdevicelost
      rw [← filter_append] at hlost
      exact hlost (mem_map_of_mem (mem_filter.2 ⟨hdevice, hdevicelost⟩))
    refine ⟨hseen, ?_⟩
    rw [hsame.2, tracked]
    simp only [map_append, count_append]
    rw [count_map_filter fun device hdevice => hkept device (mem_append_right _ hdevice),
      count_map_filter fun device hdevice => hkept device (mem_append_left _ hdevice),
      count_map_filter fun request _ heq => ?_]
    rw [heq, decide_eq_true_eq, ← map_append]
    exact hlost
  intro url hurl
  obtain ⟨hseen, heq⟩ := hcount url hurl
  rw [heq]
  exact h url hseen

theorem seenTrackedOnce_centralManagerDidUpdateState (bluetoothEnabled : Bool) :
    (s.centralManagerDidUpdateState bluetoothEnabled).SeenTrackedOnce := by
  rw [centralManagerDidUpdateState]
  dsimp only
  split
  · split
    · exact h
    · exact h
  · split
    · exact h
    · exact h

theorem seenTrackedOnce_didDiscover_iff (device : PhysicalWebDevice NSURL) :
    (s.didDiscover device).SeenTrackedOnce ↔
      (device.requestURL ∈ s.devicesUrls ∨ device.requestURL ∉ s.tracked) := by
  rw [didDiscover]
  split
  · next hseen =>
    refine iff_of_true ?_ (.inl hseen)
    split
    · refine h.congr rfl (.of_eq ?_)
      simp only [tracked, map_append, map_setScanTimestamp]
    · refine h.congr rfl (.of_eq ?_)
      simp only [tracked, map_append, map_setScanTimestamp]
  · next hnew =>
    rw [or_iff_right hnew]
    dsimp only
    split
    · refine seenTrackedOnce_iff_of_added h hnew rfl ?_
      show (List.map _ (s.unresolvedDevices ++ (s.pendingRequests ++ [device]) ++ s.devices)).Perm
        (List.map _ (device :: (s.unresolvedDevices ++ s.pendingRequests ++ s.devices)))
      refine List.Perm.map _ ?_
      rw [← append_assoc, append_assoc _ [device]]
      exact perm_middle
    · refine seenTrackedOnce_iff_of_added h hnew rfl ?_
      show (List.map _ (s.unresolvedDevices ++ [device] ++ s.pendingRequests ++ s.devices)).Perm
        (List.map _ (device :: (s.unresolvedDevices ++ s.pendingRequests ++ s.devices)))
      refine List.Perm.map _ ?_
      simp only [append_assoc, singleton_append]
      exact perm_middle

theorem seenTrackedOnce_requestFinished_iff (index : Nat) (resolved : Option NSURL) :
    (s.requestFinished index resolved).SeenTrackedOnce ↔
      ((∀ url ∈ resolved, url ∈ s.finalUrls) → ∀ request ∈ s.pendingRequests[index]?,
        request.requestURL ∉ s.devicesUrls) := by
  rw [requestFinished]
  cases hrequest : s.pendingRequests[index]? with
  | none => exact iff_of_true h nofun
  | some request =>
    dsimp only
    obtain ⟨hlt, hat⟩ := List.getElem?_eq_some_iff.1 hrequest
    have hperm : s.pendingRequests.Perm (request :: s.pendingRequests.eraseIdx index) :=
      hat ▸ (getElem_cons_eraseIdx_perm hlt).symm
    -- the request is tracked in front of the rest
    have htracked : s.tracked.Perm ([request.requestURL] ++ (s.unresolvedDevices ++
        s.pendingRequests.eraseIdx index ++ s.devices).map PhysicalWebDevice.requestURL) := by
      refine List.Perm.trans ?_ (List.Perm.of_eq map_cons)
      refine List.Perm.map _ (((hperm.append_left _).append_right _).trans ?_)
      simp only [append_assoc, cons_append]
      exact perm_middle
    have hdropped : (∀ found ∈ some request, found.requestURL ∉ s.devicesUrls) ↔
        ∀ url ∈ [request.requestURL], url ∉ s.devicesUrls := by
      simp
    rw [hdropped]
    cases resolved with
    | none =>
      refine Iff.trans (seenTrackedOnce_iff_of_dropped h (by rfl) htracked) ?_
      exact ⟨fun hnone _ => hnone, fun hnone => hnone nofun⟩
    | some url =>
      dsimp only
      split
      · next hfinal =>
        refine Iff.trans (seenTrackedOnce_iff_of_dropped h (by rfl) htracked) ?_
        refine ⟨fun hnone _ => hnone, fun hnone => hnone ?_⟩
        intro other hother
        cases hother
        exact hfinal
      · next hfinal =>
        refine iff_of_true (h.congr rfl ?_) fun hall => absurd (hall url rfl) hfinal
        refine List.Perm.trans ?_ htracked.symm
        show (List.map _ (s.unresolvedDevices ++ s.pendingRequests.eraseIdx index ++
          (s.devices ++ [{ request with url }]))).Perm _
        rw [← append_assoc, map_append]
        exact perm_append_comm

end

/-- **Step**: what a step needs to leave every seen URL tracked once. -/
theorem seenTrackedOnce_step_iff (decode : List UInt8 → Option NSURL) (h : s.SeenTrackedOnce)
    (op : Op NSURL) : (s.step decode op).SeenTrackedOnce ↔ KeepsTrack decode s op := by
  cases op with
  | start => exact iff_of_true (seenTrackedOnce_start s) trivial
  | stop => exact seenTrackedOnce_stop_iff h
  | setNetworkRequestEnabled enabled =>
    exact iff_of_true (seenTrackedOnce_setNetworkRequestEnabled h enabled) trivial
  | setOnLostDetectionEnabled enabled =>
    exact iff_of_true (seenTrackedOnce_setOnLostDetectionEnabled h enabled) trivial
  | onUpdateTimeElapsed now =>
    exact iff_of_true (seenTrackedOnce_onUpdateTimeElapsed h now) trivial
  | centralManagerDidUpdateState bluetoothEnabled =>
    exact iff_of_true (seenTrackedOnce_centralManagerDidUpdateState h bluetoothEnabled) trivial
  | didDiscoverPeripheral advertisementData now =>
    rw [step, KeepsTrack]
    cases advertisedDevice decode now advertisementData with
    | none => exact iff_of_true h nofun
    | some device =>
      refine (seenTrackedOnce_didDiscover_iff h device).trans ?_
      simp
  | requestFinished index resolved => exact seenTrackedOnce_requestFinished_iff h index resolved

end Steps

/-- Every URL that was seen stays tracked by one device or request, in every state of
a run, if and only if every step of the run keeps track. -/
theorem seen_tracked_once_iff (decode : List UInt8 → Option NSURL) (bluetoothEnabled : Bool)
    (ops : List (Op NSURL))
    (hlegal : (machine decode).Legal (initWithDelegate bluetoothEnabled) ops) :
    (∀ before, before <+: ops →
      ((machine decode).run (initWithDelegate bluetoothEnabled) before).SeenTrackedOnce) ↔
    (machine decode).Along (KeepsTrack decode) (initWithDelegate bluetoothEnabled) ops :=
  Machine.always_iff_along (I := SeenTrackedOnce) (fun _ h => h)
    (fun _ op h _ hkeeps => (seenTrackedOnce_step_iff decode h op).2 hkeeps)
    (fun _ op h _ hkeeps hafter => hkeeps ((seenTrackedOnce_step_iff decode h op).1 hafter))
    (fun url hurl => absurd hurl (Finset.notMem_empty url)) hlegal

/-- Two URLs that beacons advertise. -/
def decodeSample : List UInt8 → Option String
  | [0x02, 0x61, 0x07] => some "http://a.com"
  | [0x02, 0x62, 0x07] => some "http://b.com"
  | _ => none

/-- An advertisement of a UriBeacon. -/
def uriBeacon (encodedURI : List UInt8) : AdvertisementData where
  uriBeaconService := some (0x00 :: 0xee :: encodedURI)
  eddystoneBeaconService := none

/-- A beacon is resolved, lost, and discovered again. -/
def resolvedOps : List (Op String) :=
  [.setOnLostDetectionEnabled true, .start, .didDiscoverPeripheral (uriBeacon [0x02, 0x61, 0x07]) 1,
    .setNetworkRequestEnabled true, .requestFinished 0 (some "http://a.com/welcome"),
    .onUpdateTimeElapsed 7, .didDiscoverPeripheral (uriBeacon [0x02, 0x61, 0x07]) 8,
    .onUpdateTimeElapsed 31, .didDiscoverPeripheral (uriBeacon [0x02, 0x61, 0x07]) 32]

theorem seen_tracked_once_resolved :
    ((machine decodeSample).run (initWithDelegate true) resolvedOps).SeenTrackedOnce :=
  (seen_tracked_once_iff decodeSample true resolvedOps
    (by decide +kernel)).2
    (show (machine decodeSample).Along (KeepsTrack decodeSample) _ _ by decide +kernel)
    resolvedOps (prefix_refl _)

/-- The metadata of a beacon cannot be had. -/
def failedOps : List (Op String) :=
  [.setNetworkRequestEnabled true, .start, .didDiscoverPeripheral (uriBeacon [0x02, 0x61, 0x07]) 1,
    .requestFinished 0 none]

theorem failed_reply_orphans_url :
    (machine decodeSample).Legal (initWithDelegate true) failedOps ∧
      "http://a.com" ∈ ((machine decodeSample).run (initWithDelegate true) failedOps).devicesUrls ∧
      ((machine decodeSample).run (initWithDelegate true) failedOps).tracked = [] ∧
      ¬((machine decodeSample).run (initWithDelegate true) failedOps).SeenTrackedOnce := by
  have hseen : "http://a.com" ∈
      ((machine decodeSample).run (initWithDelegate true) failedOps).devicesUrls := by decide
  have htracked : ((machine decodeSample).run (initWithDelegate true) failedOps).tracked = [] := by
    decide
  refine ⟨?_, hseen, htracked, fun h => ?_⟩
  · decide
  · have hone := h _ hseen
    rw [htracked, count_nil] at hone
    exact absurd hone Nat.zero_ne_one

end PhysicalWebScanner

end ChromiumIos
