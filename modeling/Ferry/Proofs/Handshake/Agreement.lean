import Ferry.Handshake.Backend
import Ferry.Handshake.Client
import Ferry.Proofs.Packet.Canonical
import Ferry.Proofs.Frame.Delivery

/-!
# Both ends of a handshake

The proxy holds a handshake at either end of a connection: as the caller of a backend, and as the
host of a client. Here the two are held against each other over a link that carries frames in
order. Three frames go back and forth, and each end changes its codec between two of them; every
frame is opened by the codec that it was written for, and in the end both codecs are alike.
-/

namespace Ferry

/-! ## Packets that are sent by themselves -/

section Single

variable {packet : Packet} {version : Version} {compressor : Compressor}
  {sender receiver : FrameCodec} {gone : Bool}

/-- What a packet is written as when it is sent by itself. -/
def Packet.single (packet : Packet) (version : Version) : Bytes :=
  Batch.encodePackets [.made packet] version

/-- What is written of a packet by itself is its body behind a header and a length, which take
seven bytes at most. -/
theorem Packet.length_single : (packet.body version).length ≤
      ((BatchPacket.made packet).encode version).length ∧
    ((BatchPacket.made packet).encode version).length ≤ (packet.single version).length ∧
    (packet.single version).length ≤ (packet.body version).length + 7 := by
  have length : Varint.size (min ((BatchPacket.made packet).encode version).length
      (UInt32.size - 1)) ≤ 5 :=
    Varint.size_le (Nat.lt_of_le_of_lt (Nat.min_le_right _ _) (by decide))
  have header : (Header.ofId packet.id).encode.length ≤ 2 :=
    Varint.size_le (Header.ofId packet.id).toNat_lt
  have parts : ((BatchPacket.made packet).encode version).length =
      (Header.ofId packet.id).encode.length + (packet.body version).length := List.length_append
  have whole : (packet.single version).length = Varint.size (min ((BatchPacket.made packet).encode
      version).length (UInt32.size - 1)) + ((BatchPacket.made packet).encode version).length := by
    simp [single, Batch.encodePackets, Batch.lengthPrefixed, Varint.size]
  omega

/-- A packet gets across by itself if it is within the buffer limit. -/
theorem Packet.getsAcross (id : packet.id.toNat < 1024)
    (short : (packet.single version).length ≤ bufferLimit) :
    (Batch.made [packet]).GetsAcross version := by
  refine Batch.getsAcross_of_written (.inl rfl) ?_ short
  intro one mem
  obtain rfl := List.mem_singleton.mp mem
  exact ⟨id, Nat.zero_lt_succ _, Nat.zero_lt_succ _, Nat.le_trans Packet.length_single.2.1 short⟩

/-- Without encryption a codec stays as it is when it reads. -/
theorem FrameCodec.decode_codec {frame : Bytes} (plain : receiver.encryption = none) :
    (receiver.decode frame).2.1 = receiver := by
  unfold decode
  cases stripMarker frame with
  | error fault => rfl
  | ok payload => simp [decrypt, plain]

/-- A packet that was sent by itself is received first, if its body is read as that packet. -/
theorem Connection.receiveFirst_single (reliable : compressor.RoundTrips)
    (alike : receiver.strategy = sender.strategy) (plain : sender.encryption = none)
    (plainToo : receiver.encryption = none) (id : packet.id.toNat < 1024)
    (short : (packet.single sender.version).length ≤ bufferLimit)
    (read : Packet.reader receiver.version packet.id (packet.body sender.version) =
      .ok packet []) :
    ∃ counted, receiveFirst ⟨receiver, gone⟩
        (some (sender.encode (.made [packet]) compressor).1) =
      (.ok packet, ⟨receiver, gone⟩, counted) := by
  have inStep : sender.InStep receiver := ⟨alike, .inl ⟨plain, plainToo⟩⟩
  obtain ⟨⟨found, opened, packets, -⟩, -, -⟩ :=
    inStep.decode_encode reliable (Packet.getsAcross id short)
  generalize (sender.encode (.made [packet]) compressor).1 = frame at *
  have codec : (receiver.decode frame).2.1 = receiver := FrameCodec.decode_codec plainToo
  obtain ⟨counted, same⟩ : ∃ counted, receiver.decode frame = (.ok found, receiver, counted) :=
    ⟨(receiver.decode frame).2.2, Prod.ext opened (Prod.ext codec rfl)⟩
  have value : ((BatchPacket.made packet).arrived sender.version).decode receiver.version =
      .ok packet := Packet.decode_eq_ok_iff.mpr read
  refine ⟨counted, ?_⟩
  have arrived : found.packets = [(BatchPacket.made packet).arrived sender.version] := packets
  simp only [receiveFirst, Connection.decode, same, Except.mapError, arrived, version, value]

end Single

/-! ## Two ends -/

/-- A handshake to be held: what the caller logs in with, for which session the host takes it and
what the host offers, and with what either compresses at each level. -/
structure Meeting where
  login : LoginData
  session : SessionId
  settings : CompressionSettings
  callerLevel : Nat
  library : Nat → Compressor

/-- How far a handshake has got at both ends, and what is on its way between them. -/
structure HandshakePair where
  caller : HandshakeProgress Unit Unit
  callerEnd : Connection
  host : HandshakeProgress ClientStage LoginData
  hostEnd : Connection
  /-- Frames to the host, oldest first. -/
  toHost : List Bytes
  /-- Frames to the caller, oldest first. -/
  toCaller : List Bytes

namespace Meeting

variable {meeting : Meeting} {version callerVersion hostVersion : Version}

/-- What the caller compresses with. -/
def callerCompressor (meeting : Meeting) : Compressor := meeting.library meeting.callerLevel

/-- What the host compresses with. -/
def hostCompressor (meeting : Meeting) : Compressor := meeting.library meeting.settings.level

/-- What the caller makes of a frame. -/
def callerTurn (meeting : Meeting) (pair : HandshakePair) (frame : Bytes) :
    HandshakeTurn Unit Unit :=
  BackendHandshake.receive meeting.login pair.callerEnd (some frame) meeting.callerCompressor

/-- What the host makes of a frame. -/
def hostTurn (meeting : Meeting) (pair : HandshakePair) (stage : ClientStage) (frame : Bytes) :
    HandshakeTurn ClientStage LoginData :=
  ClientHandshake.receive meeting.session meeting.settings stage pair.hostEnd (some frame)
    meeting.hostCompressor

/-- The caller has begun and the host waits, at whatever versions both ends are made. -/
def opening (meeting : Meeting) (callerVersion hostVersion : Version) : HandshakePair :=
  let turn := BackendHandshake.start meeting.login ⟨.ofVersion callerVersion, false⟩
    meeting.callerCompressor
  ⟨turn.progress, turn.connection, .waiting .request, ⟨.ofVersion hostVersion, false⟩,
    turn.sent, []⟩

/-- One end that waits takes in the next frame. -/
inductive Step (meeting : Meeting) : HandshakePair → HandshakePair → Prop
  | host {pair : HandshakePair} {stage : ClientStage} {frame : Bytes} {frames : List Bytes}
      (waits : pair.host = .waiting stage) (first : pair.toHost = frame :: frames) :
      Step meeting pair { pair with
        host := (meeting.hostTurn pair stage frame).progress
        hostEnd := (meeting.hostTurn pair stage frame).connection
        toHost := frames
        toCaller := pair.toCaller ++ (meeting.hostTurn pair stage frame).sent }
  | caller {pair : HandshakePair} {frame : Bytes} {frames : List Bytes}
      (waits : pair.caller = .waiting ()) (first : pair.toCaller = frame :: frames) :
      Step meeting pair { pair with
        caller := (meeting.callerTurn pair frame).progress
        callerEnd := (meeting.callerTurn pair frame).connection
        toCaller := frames
        toHost := pair.toHost ++ (meeting.callerTurn pair frame).sent }

/-- The codec of either end once the compression is agreed on. -/
def agreedCodec (meeting : Meeting) (version : Version) : FrameCodec :=
  { FrameCodec.ofVersion version with
    strategy := (FrameCodec.ofVersion version).negotiated meeting.settings.algorithm
      meeting.settings.threshold.toNat }

/-- What the caller asks for the settings with. -/
def request (meeting : Meeting) : Packet :=
  .requestNetworkSettings ⟨meeting.login.protocolVersion.toInt32⟩

/-- The frame in which the caller asks for the settings. -/
def requestFrame (meeting : Meeting) (version : Version) : Bytes :=
  ((FrameCodec.ofVersion version).encode (.made [meeting.request]) meeting.callerCompressor).1

/-- The frame in which the host tells the settings. -/
def settingsFrame (meeting : Meeting) (version : Version) : Bytes :=
  ((FrameCodec.ofVersion version).encode (.made [ClientHandshake.settingsPacket meeting.settings])
    meeting.hostCompressor).1

/-- The frame in which the caller logs in. -/
def loginFrame (meeting : Meeting) (version : Version) : Bytes :=
  ((meeting.agreedCodec version).encode (.made [.login meeting.login.login])
    meeting.callerCompressor).1

/-- The caller has asked for the settings, and the host has not heard it yet. -/
def asked (meeting : Meeting) (version hostVersion : Version) : HandshakePair :=
  ⟨.waiting (), ⟨.ofVersion version, false⟩, .waiting .request, ⟨.ofVersion hostVersion, false⟩,
    [meeting.requestFrame version], []⟩

/-- The host has told its settings. It compresses from now on, and the caller does not yet. -/
def told (meeting : Meeting) (version : Version) : HandshakePair :=
  ⟨.waiting (), ⟨.ofVersion version, false⟩,
    .waiting (.login meeting.login.protocolVersion.toInt32 version),
    ⟨meeting.agreedCodec version, false⟩, [], [meeting.settingsFrame version]⟩

/-- The caller has logged in, and is done. -/
def loggedIn (meeting : Meeting) (version : Version) : HandshakePair :=
  ⟨.done (.ok ()), ⟨meeting.agreedCodec version, false⟩,
    .waiting (.login meeting.login.protocolVersion.toInt32 version),
    ⟨meeting.agreedCodec version, false⟩, [meeting.loginFrame version], []⟩

/-- Both ends are done. -/
def agreed (meeting : Meeting) (version : Version) : HandshakePair :=
  ⟨.done (.ok ()), ⟨meeting.agreedCodec version, false⟩,
    .done (.ok ⟨meeting.session, version.number, meeting.login.login, none⟩),
    ⟨meeting.agreedCodec version, false⟩, [], []⟩

/-- Whether a handshake is one of a supported version: the login announces it, and gets across. -/
structure IsOf (meeting : Meeting) (version : Version) : Prop where
  supported : version ∈ Version.supported
  announced : meeting.login.protocolVersion = version.number
  same : meeting.login.login.protocolVersion = version.number.toInt32
  short : ((Packet.login meeting.login.login).single version).length ≤ bufferLimit
  reliable : ∀ level, (meeting.library level).RoundTrips

/-- A supported version is found by its number. -/
theorem ofNumber?_number (supported : version ∈ Version.supported) :
    Version.ofNumber? version.number = some version := by
  simp only [Version.supported, List.mem_cons, List.not_mem_nil, or_false] at supported
  rcases supported with rfl | rfl | rfl <;> decide

/-- An algorithm is found again by its number on the network. -/
theorem ofNetworkId?_networkId (algorithm : Algorithm) :
    Algorithm.ofNetworkId? algorithm.networkId = some algorithm := by
  cases algorithm <;> decide

/-! ## Turn by turn -/

/-- The caller begins by asking for the settings, whatever its version was before. -/
theorem opening_eq (is : meeting.IsOf version) :
    meeting.opening callerVersion hostVersion = meeting.asked version hostVersion := by
  have found := ofNumber?_number is.supported
  rw [← is.announced] at found
  simp only [opening, BackendHandshake.start, found]
  rfl

/-- The host reads the request, whatever its version was before, and tells the settings. -/
theorem hostTurn_request (hostVersion : Version) (is : meeting.IsOf version) : ∃ counted,
    meeting.hostTurn (meeting.asked version hostVersion) .request (meeting.requestFrame version) =
      ⟨(meeting.told version).host, (meeting.told version).hostEnd,
        [meeting.settingsFrame version], counted⟩ := by
  have id : meeting.request.id.toNat < 1024 :=
    show PacketId.requestNetworkSettings.toNat < 1024 by decide
  have length : (meeting.request.body version).length = 4 := Bytes.length_bigEndian 4 _
  have short : (meeting.request.single version).length ≤ bufferLimit :=
    Nat.le_trans Packet.length_single.2.2 (by rw [length]; decide)
  obtain ⟨counted, received⟩ : ∃ counted, Connection.receiveFirst ⟨.ofVersion hostVersion, false⟩
      (some (meeting.requestFrame version)) =
        (.ok meeting.request, ⟨.ofVersion hostVersion, false⟩, counted) :=
    Connection.receiveFirst_single (is.reliable _) rfl rfl rfl id short
      (Packet.reader_body meeting.request trivial)
  have found := ofNumber?_number is.supported
  rw [← is.announced] at found
  simp only [hostTurn, ClientHandshake.receive, asked, received, request, ClientHandshake.onRequest,
    UInt32.toUInt32_toInt32, found]
  exact ⟨_, rfl⟩

/-- The caller reads the settings and logs in. -/
theorem callerTurn_settings (is : meeting.IsOf version) : ∃ counted,
    meeting.callerTurn (meeting.told version) (meeting.settingsFrame version) =
      ⟨(meeting.loggedIn version).caller, (meeting.loggedIn version).callerEnd,
        [meeting.loginFrame version], counted⟩ := by
  let packet := ClientHandshake.settingsPacket meeting.settings
  have id : packet.id.toNat < 1024 := show PacketId.networkSettings.toNat < 1024 by decide
  have length : (packet.body version).length = 10 := rfl
  have short : (packet.single version).length ≤ bufferLimit :=
    Nat.le_trans Packet.length_single.2.2 (by rw [length]; decide)
  obtain ⟨counted, received⟩ : ∃ counted, Connection.receiveFirst ⟨.ofVersion version, false⟩
      (some (meeting.settingsFrame version)) =
        (.ok packet, ⟨.ofVersion version, false⟩, counted) :=
    Connection.receiveFirst_single (is.reliable _) rfl rfl rfl id short
      (Packet.reader_body packet trivial)
  simp only [callerTurn, BackendHandshake.receive, told, received, packet,
    ClientHandshake.settingsPacket, BackendHandshake.onSettings, ofNetworkId?_networkId]
  exact ⟨_, rfl⟩

/-- The host reads the login, and takes the player for the session. -/
theorem hostTurn_login (is : meeting.IsOf version) : ∃ counted,
    meeting.hostTurn (meeting.loggedIn version)
        (.login meeting.login.protocolVersion.toInt32 version) (meeting.loginFrame version) =
      ⟨(meeting.agreed version).host, (meeting.agreed version).hostEnd, [], counted⟩ := by
  let packet := Packet.login meeting.login.login
  have id : packet.id.toNat < 1024 := show PacketId.login.toNat < 1024 by decide
  have canonical : packet.IsCanonical version := by
    have body : meeting.login.login.connectionRequest.length ≤ (packet.body version).length := by
      change _ ≤ (Bytes.bigEndian 4 _ ++ (_ ++ meeting.login.login.connectionRequest)).length
      simp only [List.length_append]
      omega
    obtain ⟨encoded, single, -⟩ := @Packet.length_single packet version
    exact Nat.le_trans body (Nat.le_trans encoded (Nat.le_trans single is.short))
  obtain ⟨counted, received⟩ : ∃ counted, Connection.receiveFirst
      ⟨meeting.agreedCodec version, false⟩ (some (meeting.loginFrame version)) =
        (.ok packet, ⟨meeting.agreedCodec version, false⟩, counted) :=
    Connection.receiveFirst_single (is.reliable _) rfl rfl rfl id is.short
      (Packet.reader_body packet canonical)
  have same : meeting.login.login.protocolVersion = meeting.login.protocolVersion.toInt32 := by
    rw [is.same, is.announced]
  simp only [hostTurn, ClientHandshake.receive, loggedIn, received, packet,
    ClientHandshake.onLogin, if_pos same]
  exact ⟨_, rfl⟩

/-! ## The whole handshake -/

/-- While one frame is on its way to the host, nothing else can happen. -/
theorem step_host_iff {pair next : HandshakePair} {stage : ClientStage} {frame : Bytes}
    (waits : pair.host = .waiting stage) (first : pair.toHost = [frame])
    (quiet : pair.toCaller = []) : meeting.Step pair next ↔ next = { pair with
      host := (meeting.hostTurn pair stage frame).progress
      hostEnd := (meeting.hostTurn pair stage frame).connection
      toHost := []
      toCaller := (meeting.hostTurn pair stage frame).sent } := by
  constructor
  · intro step
    cases step with
    | host waitsToo firstToo =>
      obtain rfl := HandshakeProgress.waiting.inj (waits.symm.trans waitsToo)
      obtain ⟨rfl, rfl⟩ := List.cons.inj (first.symm.trans firstToo)
      rw [quiet, List.nil_append]
    | caller _ sending =>
      rw [quiet] at sending
      cases sending
  · rintro rfl
    have step : meeting.Step pair _ := .host waits first
    rwa [quiet, List.nil_append] at step

/-- While one frame is on its way to the caller, nothing else can happen. -/
theorem step_caller_iff {pair next : HandshakePair} {frame : Bytes}
    (waits : pair.caller = .waiting ()) (first : pair.toCaller = [frame])
    (quiet : pair.toHost = []) : meeting.Step pair next ↔ next = { pair with
      caller := (meeting.callerTurn pair frame).progress
      callerEnd := (meeting.callerTurn pair frame).connection
      toCaller := []
      toHost := (meeting.callerTurn pair frame).sent } := by
  constructor
  · intro step
    cases step with
    | host _ sending =>
      rw [quiet] at sending
      cases sending
    | caller _ firstToo =>
      obtain ⟨rfl, rfl⟩ := List.cons.inj (first.symm.trans firstToo)
      rw [quiet, List.nil_append]
  · rintro rfl
    have step : meeting.Step pair _ := .caller waits first
    rwa [quiet, List.nil_append] at step

/-- Once asked, the host can only tell its settings. -/
theorem step_asked (is : meeting.IsOf version) (next : HandshakePair) :
    meeting.Step (meeting.asked version hostVersion) next ↔ next = meeting.told version := by
  obtain ⟨counted, turn⟩ := hostTurn_request hostVersion is
  rw [step_host_iff rfl rfl rfl, turn]
  rfl

/-- Once told, the caller can only log in. -/
theorem step_told (is : meeting.IsOf version) (next : HandshakePair) :
    meeting.Step (meeting.told version) next ↔ next = meeting.loggedIn version := by
  obtain ⟨counted, turn⟩ := callerTurn_settings is
  rw [step_caller_iff rfl rfl rfl, turn]
  rfl

/-- Once the caller has logged in, the host can only take its login, and both agree. -/
theorem step_loggedIn (is : meeting.IsOf version) (next : HandshakePair) :
    meeting.Step (meeting.loggedIn version) next ↔ next = meeting.agreed version := by
  obtain ⟨counted, turn⟩ := hostTurn_login is
  rw [step_host_iff rfl rfl rfl, turn]
  rfl

/-- Once both agree, nothing more happens. -/
theorem step_agreed (next : HandshakePair) : ¬meeting.Step (meeting.agreed version) next := by
  intro step
  cases step with
  | host waits => cases waits
  | caller waits => cases waits

/-- A number of frames, one after another. -/
inductive Steps (meeting : Meeting) : Nat → HandshakePair → HandshakePair → Prop
  | refl {pair : HandshakePair} : Steps meeting 0 pair pair
  | step {count : Nat} {pair next last : HandshakePair} (first : meeting.Step pair next)
      (rest : Steps meeting count next last) : Steps meeting (count + 1) pair last

/-- Every run from a pair comes to the same end, after so many frames. -/
def EndsIn (meeting : Meeting) (left : Nat) (pair final : HandshakePair) : Prop :=
  ∀ count other, meeting.Steps count pair other →
    count ≤ left ∧ meeting.Steps (left - count) other final

/-- A pair that can do nothing has ended. -/
theorem endsIn_stuck {pair : HandshakePair} (stuck : ∀ next, ¬meeting.Step pair next) :
    meeting.EndsIn 0 pair pair := by
  intro count other steps
  cases steps with
  | refl => exact ⟨Nat.le_refl _, .refl⟩
  | step first => exact absurd first (stuck _)

/-- A step that is the only one possible leads to the same end, one step earlier. -/
theorem EndsIn.before {left : Nat} {pair next final : HandshakePair}
    (only : ∀ other, meeting.Step pair other ↔ other = next)
    (rest : meeting.EndsIn left next final) : meeting.EndsIn (left + 1) pair final := by
  intro count other steps
  cases steps with
  | refl => exact ⟨Nat.zero_le _, .step ((only next).mpr rfl) (rest 0 next .refl).2⟩
  | @step count _ _ _ first steps =>
    obtain rfl := (only _).mp first
    obtain ⟨within, onward⟩ := rest count other steps
    exact ⟨Nat.succ_le_succ within, by rwa [Nat.add_sub_add_right]⟩

/-- Every handshake of a supported version ends after three frames. -/
theorem opening_endsIn (is : meeting.IsOf version) : meeting.EndsIn 3
    (meeting.opening callerVersion hostVersion) (meeting.agreed version) := by
  rw [opening_eq is]
  exact (((endsIn_stuck step_agreed).before (step_loggedIn is)).before
    (step_told is)).before (step_asked is)

end Meeting

/-- Whether what one end sends is opened at the other: a batch that may be sent goes out, and
arrives with its packets. -/
def Connection.Conveys (sender receiver : Connection) : Prop :=
  ∀ (compressor : Compressor) (batch : Batch), compressor.RoundTrips →
    Batch.Sendable sender.version batch → ∃ frame found,
      (sender.send batch compressor).1 = .ok frame ∧ (receiver.decode frame).1 = .ok found ∧
        found.packets = batch.packets.map fun packet => packet.arrived sender.version

/-- Ends in step convey what they send while the link is there. -/
theorem FrameCodec.InStep.conveys {sender receiver : FrameCodec} {gone : Bool}
    (inStep : sender.InStep receiver) : Connection.Conveys ⟨sender, false⟩ ⟨receiver, gone⟩ := by
  intro compressor batch reliable sendable
  obtain ⟨⟨found, opened, packets, -⟩, -, -⟩ := inStep.decode_encode reliable sendable.getsAcross
  have decoded : (Connection.decode ⟨receiver, gone⟩ (sender.encode batch compressor).1).1 =
      Except.mapError .frame (receiver.decode (sender.encode batch compressor).1).1 := rfl
  rw [opened] at decoded
  exact ⟨_, found, rfl, decoded, packets⟩

/-- A handshake between the two ends of the proxy, of a version that is supported and a login that
gets across, ends after three frames, whatever is compressed how and in which order frames
arrive. Both ends succeed, and the host has the login of the caller. Nothing is on its way then,
and both codecs are alike: of the version, with the compression that the host offers. So what
either end sends next is opened at the other, and they are in step from there on. -/
theorem Meeting.handshake_agrees (meeting : Meeting) (version callerVersion hostVersion : Version)
    (is : meeting.IsOf version) : ∃ final,
    meeting.EndsIn 3 (meeting.opening callerVersion hostVersion) final ∧
    (∀ next, ¬meeting.Step final next) ∧
    final.caller = .done (.ok ()) ∧
    final.host = .done (.ok ⟨meeting.session, meeting.login.protocolVersion,
      meeting.login.login, none⟩) ∧
    final.toHost = [] ∧ final.toCaller = [] ∧
    final.callerEnd.codec = final.hostEnd.codec ∧ final.callerEnd.version = version ∧
    final.callerEnd.codec.strategy = (FrameCodec.ofVersion version).negotiated
      meeting.settings.algorithm meeting.settings.threshold.toNat ∧
    final.callerEnd.codec.InStep final.hostEnd.codec ∧
    final.hostEnd.codec.InStep final.callerEnd.codec ∧
    final.callerEnd.Conveys final.hostEnd ∧ final.hostEnd.Conveys final.callerEnd := by
  have inStep : (meeting.agreedCodec version).InStep (meeting.agreedCodec version) :=
    ⟨rfl, .inl ⟨rfl, rfl⟩⟩
  refine ⟨meeting.agreed version, opening_endsIn is, step_agreed, rfl, ?_, rfl, rfl, rfl, rfl, rfl,
    inStep, inStep, inStep.conveys, inStep.conveys⟩
  rw [is.announced]
  rfl

/-- A handshake of the oldest version, which compresses every batch, at two levels. -/
theorem Meeting.handshake_agrees_oldest :
    let meeting : Meeting := ⟨⟨⟨1⟩, 582, ⟨582, [1, 2, 3]⟩, none⟩, ⟨7⟩, ⟨.zlib, 6, 256⟩, 1,
      fun _ => .plain⟩
    meeting.IsOf .v582 ∧ ∃ final, meeting.EndsIn 3 (meeting.opening .v712 .v712) final ∧
      final.host = .done (.ok ⟨⟨7⟩, 582, ⟨582, [1, 2, 3]⟩, none⟩) ∧
      final.callerEnd.codec = final.hostEnd.codec := by
  intro meeting
  have is : meeting.IsOf .v582 :=
    ⟨by decide, rfl, rfl, by decide +kernel, fun _ => Compressor.plain_roundTrips⟩
  obtain ⟨final, ends, -, -, host, -, -, same, -⟩ :=
    meeting.handshake_agrees .v582 .v712 .v712 is
  exact ⟨is, final, ends, host, same⟩

end Ferry
