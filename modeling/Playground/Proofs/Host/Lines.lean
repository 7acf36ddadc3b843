import Playground.Proofs.Host.Delivery
import Playground.Proofs.Record.Message

/-! Messages as lines of bytes. A device that fills up somewhere holds a beginning of the lines, and
from its complete lines the messages that got through are read back, each of them and nothing
else. -/

namespace Playground

/-! ### The bytes of a text -/

namespace Text

theorem toList_loop_eq (bytes : ByteArray) (i : Nat) (taken : List UInt8) :
    ByteArray.toList.loop bytes i taken = taken.reverse ++ bytes.data.toList.drop i := by
  fun_induction ByteArray.toList.loop bytes i taken with
  | case1 i taken h ih =>
    have hi : i < bytes.data.toList.length := by simpa using h
    rw [ih, List.drop_eq_getElem_cons hi]
    simp [ByteArray.get!, h]
  | case2 i taken h =>
    have hi : bytes.data.toList.length ≤ i := by simpa using h
    simp [List.drop_eq_nil_of_le hi]

theorem toList_toUTF8 (s : String) : s.toUTF8.toList = s.toList.flatMap String.utf8EncodeChar := by
  rw [ByteArray.toList, toList_loop_eq, String.toUTF8_eq_toByteArray, ← String.utf8Encode_toList,
    List.utf8Encode]
  simp

theorem fromUTF8?_toUTF8 (s : String) : String.fromUTF8? ⟨s.toUTF8.toList.toArray⟩ = some s := by
  have hbytes : (⟨s.toUTF8.toList.toArray⟩ : ByteArray) = s.toByteArray := by
    rw [ByteArray.toList, toList_loop_eq, String.toUTF8_eq_toByteArray]
    simp
  rw [hbytes, String.fromUTF8?, dif_pos s.isValidUTF8]
  rfl

/-- Only a line feed is written with the byte of a line feed. -/
theorem toNat_of_feed_mem {c : Char} (h : 10 ∈ String.utf8EncodeChar c) : c.toNat = 10 := by
  have hbyte {n : Nat} (hn : n < 256) (heq : (10 : UInt8) = UInt8.ofNat n) : n = 10 := by
    have := congrArg UInt8.toNat heq
    rw [UInt8.toNat_ofNat', Nat.mod_eq_of_lt hn] at this
    exact this.symm
  have hlong {n : Nat} (hn : n < 256) (hge : 128 ≤ n) (heq : (10 : UInt8) = UInt8.ofNat n) :
      c.val.toNat = 10 := by
    have := hbyte hn heq
    omega
  change c.val.toNat = 10
  unfold String.utf8EncodeChar at h
  dsimp only at h
  split at h
  · exact hbyte (by omega) (List.mem_singleton.mp h)
  -- The bytes of longer characters are all from 128 on.
  split at h
  · simp only [List.mem_cons, List.not_mem_nil, or_false] at h
    rcases h with h | h
    all_goals exact hlong (by omega) (by omega) h
  split at h
  · simp only [List.mem_cons, List.not_mem_nil, or_false] at h
    rcases h with h | h | h
    all_goals exact hlong (by omega) (by omega) h
  · simp only [List.mem_cons, List.not_mem_nil, or_false] at h
    rcases h with h | h | h | h
    all_goals exact hlong (by omega) (by omega) h

end Text

/-! ### One message -/

namespace Message

/-- The bytes of a message, without the end of its line. -/
def bytes (m : Message) : List UInt8 := m.toJson.render.toUTF8.toList

/-- The bytes of a message's line. -/
def lineBytes (m : Message) : List UInt8 := m.line.toUTF8.toList

/-- The message that the bytes of a line stand for. -/
def ofBytes? (bytes : List UInt8) : Option Message := do
  let text ← String.fromUTF8? ⟨bytes.toArray⟩
  let value ← Json.parse? text
  (Record.message value).toOption

theorem toList_toUTF8_feed : "\n".toUTF8.toList = [10] := by
  rw [Text.toList_toUTF8]
  rfl

theorem lineBytes_eq (m : Message) : m.lineBytes = m.bytes ++ [10] := by
  rw [lineBytes, line, bytes, Text.toList_toUTF8, Text.toList_toUTF8, String.toList_append,
    List.flatMap_append]
  rfl

theorem length_lineBytes (m : Message) : m.lineBytes.length = m.bytes.length + 1 := by
  simp [lineBytes_eq]

theorem ofBytes?_bytes {m : Message} (h : m.TellsWords) : ofBytes? m.bytes = some m := by
  simp only [ofBytes?, bytes, Text.fromUTF8?_toUTF8, Option.bind_eq_bind, Option.bind_some,
    (whole_toJson h).parse?_render, Record.message_toJson]
  rfl

theorem feed_not_mem_bytes {m : Message} (h : m.TellsWords) : 10 ∉ m.bytes := by
  rw [bytes, Text.toList_toUTF8, Json.render, String.toList_ofList]
  intro hmem
  obtain ⟨c, hc, hfeed⟩ := List.mem_flatMap.mp hmem
  have hle := (whole_toJson h).printable c hc
  rw [Text.toNat_of_feed_mem hfeed] at hle
  exact absurd hle (by decide)

end Message

/-! ### A device that fills up -/

namespace Device

/-- The device takes `n` bytes in all and never refuses to flush. -/
structure Holds (d : Device) (n : Nat) : Prop where
  capacity : d.capacity = some n
  flushes : d.flushReason = none
  fits : d.written.length ≤ n

/-- The same device with more bytes written. -/
def wrote (d : Device) (bytes : List UInt8) : Device := { d with written := d.written ++ bytes }

theorem Holds.write {d : Device} {n : Nat} (h : d.Holds n) (bytes : List UInt8) :
    d.write bytes =
      (decide (bytes.length ≤ n - d.written.length),
        d.wrote (bytes.take (n - d.written.length))) := by
  simp [Device.write, h.capacity, wrote]

theorem Holds.wrote {d : Device} {n : Nat} (h : d.Holds n) (bytes : List UInt8) :
    (d.wrote (bytes.take (n - d.written.length))).Holds n := by
  refine ⟨h.capacity, h.flushes, ?_⟩
  have := h.fits
  simp only [Device.wrote, List.length_append, List.length_take]
  omega

end Device

namespace Channel

open Device

/-- A message gets through exactly if there is room for its whole line; either way the device takes
what it can. -/
theorem post_lines {d : Device} {n : Nat} (h : d.Holds n) (m : Message) :
    ((lines.post m d).1 = .ok () ↔ m.lineBytes.length ≤ n - d.written.length) ∧
      (lines.post m d).2 = d.wrote (m.lineBytes.take (n - d.written.length)) := by
  have hbytes : m.toJson.render.toUTF8.toList = m.bytes := rfl
  simp only [lines, hbytes, Message.toList_toUTF8_feed, h.write, Message.length_lineBytes]
  by_cases hfits : m.bytes.length ≤ n - d.written.length
  · -- The text is written; the end of the line needs one byte more.
    have hd := h.wrote m.bytes
    have hlen : (d.wrote (m.bytes.take (n - d.written.length))).written.length =
        d.written.length + m.bytes.length := by
      rw [List.take_of_length_le hfits, wrote, List.length_append]
    have hboth : (d.wrote (m.bytes.take (n - d.written.length))).wrote
        ([10].take (n - (d.written.length + m.bytes.length))) =
          d.wrote (m.lineBytes.take (n - d.written.length)) := by
      rw [Message.lineBytes_eq, List.take_append, wrote, wrote, wrote,
        List.append_assoc, Nat.sub_sub]
    have hroom : 1 ≤ n - (d.written.length + m.bytes.length) ↔
        m.bytes.length + 1 ≤ n - d.written.length := by
      omega
    have hflush : (d.wrote (m.lineBytes.take (n - d.written.length))).flushReason = none :=
      h.flushes
    rw [hd.write, hlen, hboth, List.length_singleton]
    by_cases hend : 1 ≤ n - (d.written.length + m.bytes.length)
    · simp [hfits, hend, hflush, hroom.mp hend]
    · simp [hfits, hend, ← hroom]
  · have htake : m.lineBytes.take (n - d.written.length) = m.bytes.take (n - d.written.length) := by
      rw [Message.lineBytes_eq, List.take_append_of_le_length (by omega)]
    have hroom : ¬m.bytes.length + 1 ≤ n - d.written.length := by
      omega
    simp [hfits, htake, hroom]

theorem room_wrote {d : Device} {n : Nat} (h : d.Holds n) (bytes : List UInt8) :
    n - (d.wrote (bytes.take (n - d.written.length))).written.length =
      n - d.written.length - bytes.length := by
  have := h.fits
  simp only [wrote, List.length_append, List.length_take]
  omega

theorem length_postAll (channel : Channel σ) (messages : List Message) (state : σ) :
    (channel.postAll messages state).1.length = messages.length := by
  induction messages generalizing state with
  | nil => rfl
  | cons m ms ih => exact congrArg (· + 1) (ih _)

/-- The device ends up with a beginning of the lines, cut where it was full. -/
theorem postAll_lines {d : Device} {n : Nat} (h : d.Holds n) (messages : List Message) :
    (lines.postAll messages d).2 =
      d.wrote ((messages.flatMap Message.lineBytes).take (n - d.written.length)) := by
  induction messages generalizing d with
  | nil => simp [postAll, wrote]
  | cons m ms ih =>
    have hd := h.wrote m.lineBytes
    change (lines.postAll ms (lines.post m d).2).2 = _
    rw [(post_lines h m).2, ih hd, room_wrote h, List.flatMap_cons, List.take_append,
      wrote, wrote, wrote, List.append_assoc]

/-- A message gets through exactly if there is room for all lines up to its own. -/
theorem ok_postAll_lines {d : Device} {n : Nat} (h : d.Holds n)
    (messages : List Message) (i : Nat) :
    (lines.postAll messages d).1[i]? = some (.ok ()) ↔
      i < messages.length ∧
        ((messages.take (i + 1)).flatMap Message.lineBytes).length ≤ n - d.written.length := by
  induction messages generalizing d i with
  | nil => simp [postAll]
  | cons m ms ih =>
    have hd := h.wrote m.lineBytes
    obtain ⟨hok, hstate⟩ := post_lines h m
    change ((lines.post m d).1 :: (lines.postAll ms (lines.post m d).2).1)[i]? = _ ↔ _
    cases i with
    | zero => simpa using hok
    | succ i =>
      rw [List.getElem?_cons_succ, hstate, ih hd, room_wrote h, List.take_succ_cons,
        List.flatMap_cons, List.length_append, List.length_cons]
      cases ms with
      | nil => simp
      | cons m' ms =>
        -- A line is not empty, so nothing more fits once a line was cut.
        rw [List.take_succ_cons, List.flatMap_cons, List.length_append, Message.length_lineBytes m']
        omega

end Channel

/-! ### Reading the lines back -/

/-- The lines that are ended, without their ends. -/
def completeLines (bytes : List UInt8) : List (List UInt8) := (bytes.splitOn 10).dropLast

theorem completeLines_of_not_mem {bytes : List UInt8} (h : 10 ∉ bytes) :
    completeLines bytes = [] := by
  rw [completeLines, List.splitOn_eq_singleton h]
  rfl

theorem completeLines_append {line : List UInt8} (h : 10 ∉ line) (rest : List UInt8) :
    completeLines (line ++ 10 :: rest) = line :: completeLines rest := by
  rw [completeLines, List.splitOn_append_cons_self_of_not_mem h,
    List.dropLast_cons_of_ne_nil (List.splitOn_ne_nil _ _)]
  rfl

/-- The messages that got through. -/
def accepted : List Message → List (Except DeliveryError Unit) → List Message
  | m :: ms, .ok () :: results => m :: accepted ms results
  | _ :: ms, .error _ :: results => accepted ms results
  | _, _ => []

open Channel in
/-- The complete lines are those of the messages that got through: after a line that was cut there
is no room for another. -/
theorem completeLines_take {d : Device} {n : Nat} (h : d.Holds n) {messages : List Message}
    (hwords : ∀ m ∈ messages, m.TellsWords) :
    completeLines ((messages.flatMap Message.lineBytes).take (n - d.written.length)) =
      (accepted messages (lines.postAll messages d).1).map Message.bytes := by
  induction messages generalizing d with
  | nil => simp [accepted, completeLines_of_not_mem]
  | cons m ms ih =>
    have hm := Message.feed_not_mem_bytes (hwords m List.mem_cons_self)
    have hd := h.wrote m.lineBytes
    have hrest := ih hd (fun m hm => hwords m (List.mem_cons_of_mem _ hm))
    obtain ⟨hok, hstate⟩ := post_lines h m
    rw [room_wrote h, ← hstate] at hrest
    change _ =
      (accepted (m :: ms) ((lines.post m d).1 :: (lines.postAll ms (lines.post m d).2).1)).map _
    rw [List.flatMap_cons, List.take_append]
    cases hpost : (lines.post m d).1 with
    | ok u =>
      have hfits := hok.mp hpost
      rw [List.take_of_length_le hfits, accepted, List.map_cons, ← hrest, Message.lineBytes_eq,
        List.append_assoc, List.singleton_append, completeLines_append hm]
    | error e =>
      have hfull : n - d.written.length ≤ m.bytes.length := by
        have hcut := mt hok.mpr (by rw [hpost]; exact fun h => nomatch h)
        rw [Message.length_lineBytes] at hcut
        omega
      have hroom : n - d.written.length - m.lineBytes.length = 0 := by
        rw [Message.length_lineBytes]
        omega
      rw [hroom, List.take_zero, completeLines_of_not_mem List.not_mem_nil] at hrest
      rw [hroom, List.take_zero, List.append_nil, accepted, ← hrest, Message.lineBytes_eq,
        List.take_append_of_le_length hfull]
      exact completeLines_of_not_mem fun hmem => hm (List.mem_of_mem_take hmem)

theorem mem_of_mem_accepted {m : Message} {messages : List Message}
    {results : List (Except DeliveryError Unit)} (h : m ∈ accepted messages results) :
    m ∈ messages := by
  fun_induction accepted messages results with
  | case1 m' ms results ih =>
    rcases List.mem_cons.mp h with rfl | h
    · exact List.mem_cons_self
    · exact List.mem_cons_of_mem _ (ih h)
  | case2 m' ms e results ih => exact List.mem_cons_of_mem _ (ih h)
  | case3 => exact absurd h List.not_mem_nil

/-- A device that takes `capacity` bytes ends up with a beginning of the lines of the messages, cut
at its capacity; a message gets through exactly if its line was not cut; and the messages read from
the complete lines are exactly those that got through. -/
theorem postAll_lines_readBack {messages : List Message} (hwords : ∀ m ∈ messages, m.TellsWords)
    (capacity : Nat) (reason : String) (results : List (Except DeliveryError Unit))
    (device : Device)
    (h : Channel.lines.postAll messages { capacity := some capacity, fullReason := reason } =
      (results, device)) :
    device.written = (messages.flatMap Message.lineBytes).take capacity ∧
      results.length = messages.length ∧
      (∀ i < messages.length, results[i]? = some (.ok ()) ↔
        ((messages.take (i + 1)).flatMap Message.lineBytes).length ≤ device.written.length) ∧
      (completeLines device.written).map Message.ofBytes? =
          (accepted messages results).map some := by
  have hd : ({ capacity := some capacity, fullReason := reason } : Device).Holds capacity :=
    ⟨rfl, rfl, Nat.zero_le _⟩
  obtain ⟨rfl, rfl⟩ := Prod.mk.inj h
  have hwritten :
      (Channel.lines.postAll messages
        { capacity := some capacity, fullReason := reason }).2.written =
        (messages.flatMap Message.lineBytes).take capacity := by
    rw [Channel.postAll_lines hd]
    rfl
  refine ⟨hwritten, Channel.length_postAll _ _ _, ?_, ?_⟩
  · intro i hi
    have hle : ((messages.take (i + 1)).flatMap Message.lineBytes).length ≤
        (messages.flatMap Message.lineBytes).length := by
      conv_rhs => rw [← List.take_append_drop (i + 1) messages, List.flatMap_append,
        List.length_append]
      exact Nat.le_add_right _ _
    rw [Channel.ok_postAll_lines hd, hwritten, List.length_take, Nat.le_min]
    exact ⟨fun h => ⟨h.2, hle⟩, fun h => ⟨hi, h.1⟩⟩
  · have hlines := completeLines_take hd hwords
    change completeLines ((messages.flatMap Message.lineBytes).take capacity) = _ at hlines
    rw [hwritten, hlines, List.map_map]
    apply List.map_congr_left
    intro m hm
    exact Message.ofBytes?_bytes (hwords m (mem_of_mem_accepted hm))

/-- Messages whose texts hold line feeds, quotes and letters of several bytes. -/
def spokenMessages : List Message := [
  .filesCompiled [{ name := "saludo\n", content := "\"¡hola!\"\r\n" }],
  .filesCompiled
  [{ name := "main", content := "\t", error := some ⟨"\\n", 18446744073709551615, 0, "\u0000"⟩ }],
  .filesCompiled []]

theorem spokenMessages_tellWords : ∀ m ∈ spokenMessages, m.TellsWords := by
  simp [spokenMessages, Message.TellsWords, Message.filesCompiled]

/-- The second line is cut; the third would have fitted in its place, but comes too late. -/
theorem postAll_lines_readBack_cutInSecond :
    (∀ m ∈ spokenMessages, m.TellsWords) ∧
      ∃ cut late device,
      Channel.lines.postAll spokenMessages { capacity := some 150, fullReason := "full" } =
          ([.ok (), .error cut, .error late], device) ∧
        (completeLines device.written).map Message.ofBytes? = (spokenMessages.take 1).map some := by
  have hresults :
      (Channel.lines.postAll spokenMessages { capacity := some 150, fullReason := "full" }).1.map
        (·.toBool) = [true, false, false] := by
    decide +kernel
  refine ⟨spokenMessages_tellWords, ?_⟩
  obtain ⟨results, device, hposted⟩ : ∃ results device,
      Channel.lines.postAll spokenMessages { capacity := some 150, fullReason := "full" } =
          (results, device) :=
    ⟨_, _, rfl⟩
  obtain ⟨-, -, -, hread⟩ := postAll_lines_readBack spokenMessages_tellWords 150 "full" _ _ hposted
  rw [hposted] at hresults ⊢
  simp only [List.map_eq_cons_iff, List.map_eq_nil_iff] at hresults
  obtain ⟨_ | u, _, rfl, hfirst, _ | u, _, rfl, hsecond, _ | u, _, rfl, hthird, rfl⟩ := hresults
  case ok.error.error => exact ⟨_, _, device, rfl, hread⟩
  all_goals cases hfirst <;> cases hsecond <;> cases hthird

end Playground
