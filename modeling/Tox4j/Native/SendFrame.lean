import Tox4j.Native.EntryPoint

/-!
# `Tox4j.Native.SendFrame`: the size checks of audio and video frames

`toxavAudioSendFrame` and `toxavVideoSendFrame` of `ToxAv/av.cpp` hand the pointers of the
Java arrays to toxav, which computes from the other arguments how much it reads through
them. So both functions first compare the array sizes with products of their arguments.

The products are products of `jint`s, and are converted to `size_t` after that. A `jint`
product is taken modulo `2 ^ 32`. The frame that toxav gets has the width and the height
modulo `2 ^ 16`. `audioChecked_iff` and `videoChecked_iff` say exactly for which arguments
the check is the intended one. For a width and a height from 0 to 65535 it is
(`productsAgree_of_range`).
-/

set_option autoImplicit false

namespace Tox4j.Native

open InstanceManager (calls)

/-- `HANDLE ("SendFrame", SEND_FRAME)` of `ToxAv/generated/errors.cpp`. -/
def sendFrame : ErrorType where
  moduleName := "av"
  exnPrefix := "av"
  methodName := "SendFrame"
  failures := ["FRIEND_NOT_FOUND", "FRIEND_NOT_IN_CALL", "INVALID", "NULL",
    "PAYLOAD_TYPE_DISABLED", "RTP_FAILED", "SYNC"]

/-- `TOXAV_ERR_SEND_FRAME_INVALID`. -/
def sendFrameInvalid : ErrorCode sendFrame := .failure "INVALID" (by simp [sendFrame])

/-- The arguments of `toxav_audio_send_frame`, as it gets them. -/
structure AudioFrame where
  friendNumber : UInt32
  pcm : Option (List Int16)
  sampleCount : UInt64
  channels : UInt8
  samplingRate : UInt32
  deriving DecidableEq, Repr

/-- The arguments of `toxav_video_send_frame`, as it gets them. -/
structure VideoFrame where
  friendNumber : UInt32
  width : UInt16
  height : UInt16
  y : Option (List UInt8)
  u : Option (List UInt8)
  v : Option (List UInt8)
  deriving DecidableEq, Repr

section

variable {ToxAV Events : Type}
  (instances : InstanceManager ToxAV Events) (env : JNIEnv)

/-- `toxavAudioSendFrame`. The list holds the frames that were sent, with their instances. -/
def toxavAudioSendFrame (toxav_audio_send_frame : ToxAV × AudioFrame → Bool × ErrorCode sendFrame)
    (instanceNumber friendNumber : Jint) (pcm : ArrayFromJava Int16)
    (sampleCount channels samplingRate : Jint) (sent : List (ToxAV × AudioFrame)) :
    Except Fatal (Unit × JNIEnv × List (ToxAV × AudioFrame)) := do
  tox4jAssert (0 ≤ sampleCount) "sampleCount >= 0"
  tox4jAssert (0 ≤ channels) "channels >= 0"
  tox4jAssert (channels ≤ 255) "channels <= 255"
  tox4jAssert (0 ≤ samplingRate) "samplingRate >= 0"
  if pcm.size ≠ sizeT (sampleCount * channels) then
    return ((), throwErrorCode env sendFrameInvalid, sent)
  instances.withInstanceIgn env instanceNumber
    (fun av => recorded toxav_audio_send_frame
      (av, {
        friendNumber := friendNumber.toUInt32
        pcm := pcm.data
        sampleCount := sizeT sampleCount
        channels := channels.toUInt32.toUInt8
        samplingRate := samplingRate.toUInt32 }))
    sent

/-- `toxavVideoSendFrame`. The list holds the frames that were sent, with their instances. -/
def toxavVideoSendFrame (toxav_video_send_frame : ToxAV × VideoFrame → Bool × ErrorCode sendFrame)
    (instanceNumber friendNumber width height : Jint) (y u v : ArrayFromJava UInt8)
    (sent : List (ToxAV × VideoFrame)) :
    Except Fatal (Unit × JNIEnv × List (ToxAV × VideoFrame)) :=
  let ySize := sizeT (width * height)
  let uvSize := sizeT (width / 2 * (height / 2))
  if y.size ≠ ySize ∨ u.size ≠ uvSize ∨ v.size ≠ uvSize then
    .ok ((), throwErrorCode env sendFrameInvalid, sent)
  else
    instances.withInstanceIgn env instanceNumber
      (fun av => recorded toxav_video_send_frame
        (av, {
          friendNumber := friendNumber.toUInt32
          width := width.toUInt32.toUInt16
          height := height.toUInt32.toUInt16
          y := y.data
          u := u.data
          v := v.data }))
      sent

end

/-! ### What the checks let through -/

section

variable {ToxAV Events Frame : Type} {instances : InstanceManager ToxAV Events} {n : Jint}
  {av : ToxAV} {ev : Events}

/-- One frame reached toxav, on the instance `av`, and it is `P`. -/
def Sends (av : ToxAV) (P : Frame → Prop)
    (result : Except Fatal (Unit × JNIEnv × List (ToxAV × Frame))) : Prop :=
  ∃ env frame, result = .ok ((), env, [(av, frame)]) ∧ P frame

/-- No frame reached toxav, and the exception of the code `INVALID` was thrown. -/
def Refuses (env : JNIEnv) (result : Except Fatal (Unit × JNIEnv × List (ToxAV × Frame))) :
    Prop :=
  result = .ok ((), throwToxException env "av" "av" "SendFrame" "INVALID", [])

/-- A frame that was sent was not refused. -/
theorem not_refuses_of_sends {env : JNIEnv} {P : Frame → Prop}
    {result : Except Fatal (Unit × JNIEnv × List (ToxAV × Frame))} (h : Sends av P result) :
    ¬ Refuses env result := by
  obtain ⟨env', frame, hresult, -⟩ := h
  intro hrefuses
  rw [Refuses, hresult] at hrefuses
  simp at hrefuses

/-- On a live instance the frame is sent once. -/
theorem withInstanceIgn_sends (hm : calls.Reachable instances)
    (hlive : instances.status n = .live (av, ev)) (env : JNIEnv)
    (toxFunc : ToxAV × Frame → Bool × ErrorCode sendFrame) (frame : Frame) :
    ∃ env', instances.withInstanceIgn env n (fun av => recorded toxFunc (av, frame)) []
      = .ok ((), env', [(av, frame)]) := by
  obtain ⟨r, hr⟩ :=
    sendFrame.withErrorHandling_eq env (fun _ => ()) (recorded toxFunc (av, frame)) []
  refine ⟨envAfter env (toxFunc (av, frame)).2, ?_⟩
  rw [InstanceManager.withInstanceIgn, InstanceManager.withInstanceErr_live hm hlive, hr]
  rfl

/-- What the size check of `toxavAudioSendFrame` is for: toxav gets the frame when the array
has the samples that toxav will read, and only then. -/
def AudioChecked (av : ToxAV) (env : JNIEnv) (pcm : ArrayFromJava Int16)
    (sampleCount channels : Jint)
    (result : Except Fatal (Unit × JNIEnv × List (ToxAV × AudioFrame))) : Prop :=
  ((pcm.length : Int) = sampleCount.toInt * channels.toInt →
      Sends av (fun frame => frame.pcm = pcm.data) result) ∧
    ((pcm.length : Int) ≠ sampleCount.toInt * channels.toInt → Refuses env result)

/-- `toxavAudioSendFrame` on a live instance, when its assertions hold. -/
theorem toxavAudioSendFrame_cases (hm : calls.Reachable instances)
    (hlive : instances.status n = .live (av, ev)) (env : JNIEnv)
    (toxFunc : ToxAV × AudioFrame → Bool × ErrorCode sendFrame) (friendNumber : Jint)
    (pcm : ArrayFromJava Int16) {sampleCount channels samplingRate : Jint}
    (hcount : 0 ≤ sampleCount) (hch : 0 ≤ channels) (hch' : channels ≤ 255)
    (hrate : 0 ≤ samplingRate) :
    ((pcm.length : Int) ≡ sampleCount.toInt * channels.toInt [ZMOD 2 ^ 32] →
      Sends av (fun frame => frame.pcm = pcm.data)
        (toxavAudioSendFrame instances env toxFunc n friendNumber pcm sampleCount channels
          samplingRate [])) ∧
    (¬ (pcm.length : Int) ≡ sampleCount.toInt * channels.toInt [ZMOD 2 ^ 32] →
      Refuses env
        (toxavAudioSendFrame instances env toxFunc n friendNumber pcm sampleCount channels
          samplingRate [])) := by
  rw [← pcm.size_eq_iff]
  simp only [toxavAudioSendFrame, hcount, hch, hch', hrate, decide_true, tox4jAssert_true, bind,
    Except.bind]
  constructor
  · intro hsize
    rw [if_neg (not_not.mpr hsize)]
    obtain ⟨env', h⟩ := withInstanceIgn_sends hm hlive env toxFunc
      ⟨friendNumber.toUInt32, pcm.data, sizeT sampleCount, channels.toUInt32.toUInt8,
        samplingRate.toUInt32⟩
    exact ⟨env', _, h, rfl⟩
  · intro hsize
    rw [if_pos hsize]
    rfl

/-- The check of `toxavAudioSendFrame` is the intended one unless the product does not fit in
32 bits and the array has as many samples as its low 32 bits say. -/
theorem audioChecked_iff (hm : calls.Reachable instances)
    (hlive : instances.status n = .live (av, ev)) (env : JNIEnv)
    (toxFunc : ToxAV × AudioFrame → Bool × ErrorCode sendFrame) (friendNumber : Jint)
    (pcm : ArrayFromJava Int16) {sampleCount channels samplingRate : Jint}
    (hcount : 0 ≤ sampleCount) (hch : 0 ≤ channels) (hch' : channels ≤ 255)
    (hrate : 0 ≤ samplingRate) :
    AudioChecked av env pcm sampleCount channels
        (toxavAudioSendFrame instances env toxFunc n friendNumber pcm sampleCount channels
          samplingRate []) ↔
      sampleCount.toInt * channels.toInt < 2 ^ 32 ∨
        (pcm.length : Int) ≠ sampleCount.toInt * channels.toInt % 2 ^ 32 := by
  have hlt := pcm.length_lt
  have hnonneg : 0 ≤ sampleCount.toInt * channels.toInt :=
    Int.mul_nonneg (Int32.le_iff_toInt_le.mp hcount) (Int32.le_iff_toInt_le.mp hch)
  obtain ⟨hsends, hrefuses⟩ := toxavAudioSendFrame_cases hm hlive env toxFunc friendNumber pcm
    hcount hch hch' hrate
  by_cases hmod : (pcm.length : Int) ≡ sampleCount.toInt * channels.toInt [ZMOD 2 ^ 32]
  · -- The frame is sent, so the check is right when the length is the product itself.
    have hsent := hsends hmod
    have hrem : (pcm.length : Int) = sampleCount.toInt * channels.toInt % 2 ^ 32 := by
      have h : (pcm.length : Int) % 2 ^ 32 = _ := hmod
      omega
    constructor
    · intro h
      by_cases heq : (pcm.length : Int) = sampleCount.toInt * channels.toInt
      · left
        omega
      · exact absurd (h.2 heq) (not_refuses_of_sends hsent)
    · intro h
      have heq : (pcm.length : Int) = sampleCount.toInt * channels.toInt := by omega
      exact ⟨fun _ => hsent, fun hne => absurd heq hne⟩
  · -- The frame is refused, and the length is not the product.
    have hne : (pcm.length : Int) ≠ sampleCount.toInt * channels.toInt := by
      intro heq
      exact hmod (congrArg (· % 2 ^ 32) heq)
    constructor
    · intro _
      right
      intro hrem
      apply hmod
      show (pcm.length : Int) % 2 ^ 32 = sampleCount.toInt * channels.toInt % 2 ^ 32
      omega
    · intro _
      exact ⟨fun heq => absurd heq hne, fun _ => hrefuses hmod⟩

/-- A function of toxav that reports success. -/
def accepts {Frame : Type} (_ : Nat × Frame) : Bool × ErrorCode sendFrame := (true, .ok 0)

/-- Stereo: one sample for each of two channels. -/
theorem audioChecked_stereo :
    AudioChecked 7 ⟨[]⟩ (some ⟨[5, 6], by decide⟩) 1 2
        (toxavAudioSendFrame oneInstance ⟨[]⟩ accepts 1 0 (some ⟨[5, 6], by decide⟩) 1 2 48000 []) ↔
      (1 : Jint).toInt * (2 : Jint).toInt < 2 ^ 32 ∨
        (2 : Int) ≠ (1 : Jint).toInt * (2 : Jint).toInt % 2 ^ 32 :=
  audioChecked_iff oneInstance_reachable oneInstance_live ⟨[]⟩ accepts 0
    (some ⟨[5, 6], by decide⟩) (by decide) (by decide) (by decide) (by decide)

/-- `2 ^ 25` samples for each of 128 channels are `2 ^ 32` samples. The product is 0 as a
`jint`, so an empty array is sent. -/
theorem not_audioChecked :
    ¬ AudioChecked 7 ⟨[]⟩ emptyArray (2 ^ 25) 128
      (toxavAudioSendFrame oneInstance ⟨[]⟩ accepts 1 0 emptyArray (2 ^ 25) 128 48000 []) := by
  intro h
  have hne : ((emptyArray : ArrayFromJava Int16).length : Int)
      ≠ (2 ^ 25 : Jint).toInt * (128 : Jint).toInt := by
    decide
  have hsent := (toxavAudioSendFrame_cases oneInstance_reachable oneInstance_live ⟨[]⟩ accepts 0
    emptyArray (show (0 : Jint) ≤ 2 ^ 25 by decide) (show (0 : Jint) ≤ 128 by decide)
    (show (128 : Jint) ≤ 255 by decide) (show (0 : Jint) ≤ 48000 by decide)).1 (by decide)
  exact not_refuses_of_sends hsent (h.2 hne)

/-! ### Video -/

/-- The planes have the sizes that toxav computes from the width and the height it gets. -/
def VideoFrame.SizesMatch (frame : VideoFrame) : Prop :=
  let w := frame.width.toNat
  let h := frame.height.toNat
  (frame.y.getD []).length = w * h ∧
    (frame.u.getD []).length = (w / 2) * (h / 2) ∧
    (frame.v.getD []).length = (w / 2) * (h / 2)

/-- What the size check of `toxavVideoSendFrame` is for: toxav gets a frame whose planes have
the right sizes, or the call is refused. -/
def VideoChecked (av : ToxAV) (env : JNIEnv)
    (result : Except Fatal (Unit × JNIEnv × List (ToxAV × VideoFrame))) : Prop :=
  Sends av VideoFrame.SizesMatch result ∨ Refuses env result

/-- The comparisons of `toxavVideoSendFrame` hold. -/
def PlanesFit (width height : Jint) (y u v : ArrayFromJava UInt8) : Prop :=
  (y.length : Int) ≡ width.toInt * height.toInt [ZMOD 2 ^ 32] ∧
    (u.length : Int) ≡ width.toInt.tdiv 2 * height.toInt.tdiv 2 [ZMOD 2 ^ 32] ∧
    (v.length : Int) ≡ width.toInt.tdiv 2 * height.toInt.tdiv 2 [ZMOD 2 ^ 32]

instance (width height : Jint) (y u v : ArrayFromJava UInt8) :
    Decidable (PlanesFit width height y u v) :=
  inferInstanceAs (Decidable (_ ∧ _ ∧ _))

/-- The products of the width and the height, and of their halves, are the same modulo
`2 ^ 32` for the numbers that toxav gets, which are taken modulo `2 ^ 16`. -/
def ProductsAgree (width height : Jint) : Prop :=
  let w := width.toInt % 2 ^ 16
  let h := height.toInt % 2 ^ 16
  width.toInt * height.toInt ≡ w * h [ZMOD 2 ^ 32] ∧
    width.toInt.tdiv 2 * height.toInt.tdiv 2 ≡ (w / 2) * (h / 2) [ZMOD 2 ^ 32]

/-- The division of C rounds to 0, also for a negative width or height. -/
theorem toInt_half (x : Jint) : (x / 2).toInt = x.toInt.tdiv 2 := by
  have hlt := x.toInt_lt
  have hle := x.le_toInt
  have habs : -2 ^ 31 ≤ x.toInt.tdiv 2 ∧ x.toInt.tdiv 2 < 2 ^ 31 := by
    have hsign : Int.sign 2 = 1 := rfl
    rw [Int.tdiv_eq_ediv]
    split <;> omega
  rw [Int32.toInt_div]
  show (x.toInt.tdiv 2).bmod (2 ^ 32) = _
  rw [Int.bmod_eq_of_le] <;> omega

/-- The conversion to `uint16_t` keeps the remainder modulo `2 ^ 16`. -/
theorem toNat_toUInt16 (x : Jint) : (x.toUInt32.toUInt16.toNat : Int) = x.toInt % 2 ^ 16 := by
  have hcond : x.toInt = x.toBitVec.toInt := rfl
  have hnat : x.toUInt32.toNat = x.toBitVec.toNat := rfl
  have hlt : x.toBitVec.toNat < 2 ^ 32 := x.toBitVec.isLt
  rw [UInt32.toNat_toUInt16, hnat, hcond, BitVec.toInt_eq_toNat_cond]
  split <;> omega

/-- The comparisons of `toxavVideoSendFrame` are the ones of `PlanesFit`. -/
theorem sizes_differ_iff (width height : Jint) (y u v : ArrayFromJava UInt8) :
    (y.size ≠ sizeT (width * height) ∨ u.size ≠ sizeT (width / 2 * (height / 2)) ∨
        v.size ≠ sizeT (width / 2 * (height / 2))) ↔
      ¬ PlanesFit width height y u v := by
  rw [PlanesFit, ← toInt_half, ← toInt_half, ← y.size_eq_iff, ← u.size_eq_iff, ← v.size_eq_iff]
  tauto

/-- A length that is known modulo `2 ^ 32` is a number below `2 ^ 32` when that number has the
same remainder. -/
theorem length_eq_iff {len q : Nat} {p : Int} (hlen : len < 2 ^ 32) (hq : q < 2 ^ 32)
    (h : (len : Int) ≡ p [ZMOD 2 ^ 32]) : len = q ↔ p ≡ (q : Int) [ZMOD 2 ^ 32] := by
  unfold Int.ModEq at *
  omega

/-- A frame that passes the comparisons has planes of the right sizes when the products agree,
and only then. -/
theorem sizesMatch_iff {width height : Jint} {y u v : ArrayFromJava UInt8}
    (hfit : PlanesFit width height y u v) (friendNumber : UInt32) :
    VideoFrame.SizesMatch ⟨friendNumber, width.toUInt32.toUInt16, height.toUInt32.toUInt16,
        y.data, u.data, v.data⟩ ↔ ProductsAgree width height := by
  have hw := toNat_toUInt16 width
  have hh := toNat_toUInt16 height
  generalize hwn : width.toUInt32.toUInt16.toNat = w at hw
  generalize hhn : height.toUInt32.toUInt16.toNat = h at hh
  obtain ⟨hy, hu, hv⟩ := hfit
  have hlen : y.length < 2 ^ 32 ∧ u.length < 2 ^ 32 ∧ v.length < 2 ^ 32 := by
    have hly := y.length_lt
    have hlu := u.length_lt
    have hlv := v.length_lt
    omega
  -- The numbers that toxav gets are below `2 ^ 16`, so their product is below `2 ^ 32`.
  have hwlt : w < 2 ^ 16 := by omega
  have hhlt : h < 2 ^ 16 := by omega
  have hprod : w * h < 2 ^ 32 :=
    calc
      w * h < 2 ^ 16 * 2 ^ 16 := Nat.mul_lt_mul'' hwlt hhlt
      _ = 2 ^ 32 := rfl
  have hhalves : w / 2 * (h / 2) < 2 ^ 32 :=
    Nat.lt_of_le_of_lt (Nat.mul_le_mul (Nat.div_le_self w 2) (Nat.div_le_self h 2)) hprod
  have hyiff := length_eq_iff hlen.1 hprod hy
  have huiff := length_eq_iff hlen.2.1 hhalves hu
  have hviff := length_eq_iff hlen.2.2 hhalves hv
  simp only [VideoFrame.SizesMatch, hwn, hhn, ProductsAgree, ← hw, ← hh]
  show y.length = w * h ∧ u.length = w / 2 * (h / 2) ∧ v.length = w / 2 * (h / 2) ↔ _
  rw [hyiff, huiff, hviff, and_self]
  push_cast
  rfl

/-- `toxavVideoSendFrame` on a live instance. -/
theorem toxavVideoSendFrame_cases (hm : calls.Reachable instances)
    (hlive : instances.status n = .live (av, ev)) (env : JNIEnv)
    (toxFunc : ToxAV × VideoFrame → Bool × ErrorCode sendFrame) (friendNumber width height : Jint)
    (y u v : ArrayFromJava UInt8) :
    (PlanesFit width height y u v →
      Sends av (fun frame => frame = ⟨friendNumber.toUInt32, width.toUInt32.toUInt16,
          height.toUInt32.toUInt16, y.data, u.data, v.data⟩)
        (toxavVideoSendFrame instances env toxFunc n friendNumber width height y u v [])) ∧
    (¬ PlanesFit width height y u v →
      Refuses env
        (toxavVideoSendFrame instances env toxFunc n friendNumber width height y u v [])) := by
  have hdiffer := sizes_differ_iff width height y u v
  unfold toxavVideoSendFrame
  constructor
  · intro hfit
    rw [if_neg (fun hc => hdiffer.mp hc hfit)]
    obtain ⟨env', h⟩ := withInstanceIgn_sends hm hlive env toxFunc
      ⟨friendNumber.toUInt32, width.toUInt32.toUInt16, height.toUInt32.toUInt16, y.data, u.data,
        v.data⟩
    exact ⟨env', _, h, rfl⟩
  · intro hfit
    rw [if_pos (hdiffer.mpr hfit)]
    rfl

/-- The check of `toxavVideoSendFrame` is the intended one unless the planes pass the
comparisons and the products of the numbers that toxav gets are other products. -/
theorem videoChecked_iff (hm : calls.Reachable instances)
    (hlive : instances.status n = .live (av, ev)) (env : JNIEnv)
    (toxFunc : ToxAV × VideoFrame → Bool × ErrorCode sendFrame) (friendNumber width height : Jint)
    (y u v : ArrayFromJava UInt8) :
    VideoChecked av env
        (toxavVideoSendFrame instances env toxFunc n friendNumber width height y u v []) ↔
      (PlanesFit width height y u v → ProductsAgree width height) := by
  obtain ⟨hsends, hrefuses⟩ :=
    toxavVideoSendFrame_cases hm hlive env toxFunc friendNumber width height y u v
  constructor
  · intro hchecked hfit
    obtain ⟨env', frame, hresult, hframe⟩ := hsends hfit
    cases hchecked with
    | inl hmatch =>
        obtain ⟨env'', frame', hresult', hsizes⟩ := hmatch
        have hsame : frame' = frame := by
          rw [hresult] at hresult'
          simp only [Except.ok.injEq, Prod.mk.injEq, List.cons.injEq] at hresult'
          exact hresult'.2.2.1.2.symm
        rw [hsame, hframe] at hsizes
        exact (sizesMatch_iff hfit _).mp hsizes
    | inr hrefused => exact absurd hrefused (not_refuses_of_sends (hsends hfit))
  · intro hagree
    by_cases hfit : PlanesFit width height y u v
    · obtain ⟨env', frame, hresult, hframe⟩ := hsends hfit
      left
      exact ⟨env', frame, hresult, hframe ▸ (sizesMatch_iff hfit _).mpr (hagree hfit)⟩
    · right
      exact hrefuses hfit

/-- A 2 × 2 frame. -/
theorem videoChecked_small :
    VideoChecked 7 ⟨[]⟩
        (toxavVideoSendFrame oneInstance ⟨[]⟩ accepts 1 0 2 2 (some ⟨[1, 2, 3, 4], by decide⟩)
          (some ⟨[5], by decide⟩) (some ⟨[6], by decide⟩) []) ↔
      (PlanesFit 2 2 (some ⟨[1, 2, 3, 4], by decide⟩) (some ⟨[5], by decide⟩)
        (some ⟨[6], by decide⟩) → ProductsAgree 2 2) :=
  videoChecked_iff oneInstance_reachable oneInstance_live ⟨[]⟩ accepts 0 2 2
    (some ⟨[1, 2, 3, 4], by decide⟩) (some ⟨[5], by decide⟩) (some ⟨[6], by decide⟩)

/-- A width and a height of -1 have the product 1, and toxav gets 65535 for both. -/
theorem not_videoChecked :
    ¬ VideoChecked 7 ⟨[]⟩
      (toxavVideoSendFrame oneInstance ⟨[]⟩ accepts 1 0 (-1) (-1) (some ⟨[0], by decide⟩) emptyArray
        emptyArray []) := by
  have hsent := (toxavVideoSendFrame_cases oneInstance_reachable oneInstance_live ⟨[]⟩ accepts 0
    (-1) (-1) (some ⟨[0], by decide⟩) emptyArray emptyArray).1 (by decide)
  intro h
  cases h with
  | inl hmatch =>
      obtain ⟨_, frame, hresult, hsizes⟩ := hmatch
      obtain ⟨_, frame', hresult', hframe⟩ := hsent
      rw [hresult'] at hresult
      simp only [Except.ok.injEq, Prod.mk.injEq, List.cons.injEq] at hresult
      rw [← hresult.2.2.1.2, hframe] at hsizes
      exact absurd hsizes.1 (by decide)
  | inr hrefused => exact not_refuses_of_sends hsent hrefused

/-- The products agree for a width and a height that fit in 16 bits. -/
theorem productsAgree_of_range {width height : Jint} (hw : 0 ≤ width.toInt)
    (hw' : width.toInt < 2 ^ 16) (hh : 0 ≤ height.toInt) (hh' : height.toInt < 2 ^ 16) :
    ProductsAgree width height := by
  have hwmod : width.toInt % 2 ^ 16 = width.toInt := Int.emod_eq_of_lt hw hw'
  have hhmod : height.toInt % 2 ^ 16 = height.toInt := Int.emod_eq_of_lt hh hh'
  unfold ProductsAgree
  rw [hwmod, hhmod, Int.tdiv_eq_ediv_of_nonneg hw, Int.tdiv_eq_ediv_of_nonneg hh]
  exact ⟨rfl, rfl⟩

end

end Tox4j.Native
