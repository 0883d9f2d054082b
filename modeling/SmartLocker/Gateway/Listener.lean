import SmartLocker.Lib.Cut
import SmartLocker.Lib.Utf8

/-!
# The serial listener

Model of the reading half of `SerialManager._listener_loop`: each chunk is decoded by itself and
appended to `_buffer`; when the buffer has a line end, all complete lines are taken out, stripped,
freed of NULs, and what follows the first brace goes to `_handle_incoming_json`.

`frames_delivered` is the delivery theorem: for a stream of lines of noise, with or without one JSON
text at their end, the handler is called with exactly the JSON texts, in order, however the stream
is cut into chunks; the unfinished last line stays in the buffer and is completed by what comes.
A chunk may end inside a multi-byte sequence, so what the buffer holds of some bytes is fixed only
up to the noise it lost: `Decoded bs t` says that `t` is a chunk-wise decoding of `bs`.
-/

set_option autoImplicit false

namespace SmartLocker.Gateway

open Lib.Python Lib.Utf8 Lib.Cut

def isNewline (c : Char) : Bool := c == '\n'

/-- What the loop hands to `_handle_incoming_json` for one line, if anything. -/
def jsonOfLine (line : List Char) : Option (List Char) :=
  let line := (strip line).filter (· != '\x00')
  if line = [] then none
  else
    match line.dropWhile (· != '\x7b') with
    | [] => none
    | json => some json

/-- One read of `_listener_loop`: the new `_buffer`, and the calls of `_handle_incoming_json`. -/
def listenerRead (buffer : List Char) (chunk : List UInt8) : List Char × List (List Char) :=
  let buffer := buffer ++ decode chunk
  if buffer.any isNewline then
    let lines := split isNewline buffer
    (lines.getLastD [], lines.dropLast.filterMap jsonOfLine)
  else (buffer, [])

def listenerLoop (buffer : List Char) : List (List UInt8) → List Char × List (List Char)
  | [] => (buffer, [])
  | chunk :: chunks =>
    let r := listenerRead buffer chunk
    let rest := listenerLoop r.1 chunks
    (rest.1, r.2 ++ rest.2)

/-! ## The loop as a line reader -/

theorem listenerRead_eq {buffer : List Char} (hb : ∀ c ∈ buffer, isNewline c = false)
    (chunk : List UInt8) :
    listenerRead buffer chunk =
      ((feed isNewline buffer (decode chunk)).2,
        (feed isNewline buffer (decode chunk)).1.filterMap jsonOfLine) := by
  unfold listenerRead
  simp only
  split
  · rw [split_append hb]
    simp
  · rename_i hnone
    have hdec : ∀ c ∈ decode chunk, isNewline c = false := by
      intro c hc
      cases hn : isNewline c with
      | false => rfl
      | true => exact absurd (List.any_eq_true.mpr ⟨c, List.mem_append_right _ hc, hn⟩) hnone
    rw [feed_none hdec]
    rfl

/-- **The loop is a line reader of the decoded chunks.** -/
theorem listenerLoop_eq :
    ∀ (chunks : List (List UInt8)) (buffer : List Char),
      (∀ c ∈ buffer, isNewline c = false) →
      listenerLoop buffer chunks =
        ((feed isNewline buffer (chunks.flatMap decode)).2,
          (feed isNewline buffer (chunks.flatMap decode)).1.filterMap jsonOfLine)
  | [], _, _ => rfl
  | chunk :: chunks, buffer, hb => by
    have hrest : ∀ c ∈ (feed isNewline buffer (decode chunk)).2, isNewline c = false :=
      feed_rest hb
    simp only [listenerLoop, listenerRead_eq hb, listenerLoop_eq chunks _ hrest,
      List.flatMap_cons, feed_append, List.filterMap_append]

/-! ## Chunk-wise decoding -/

/-- `t` is what decoding `bs` in pieces gives, for some way of cutting it. -/
def Decoded (bs : List UInt8) (t : List Char) : Prop :=
  ∃ parts : List (List UInt8), parts.flatten = bs ∧ t = parts.flatMap decode

theorem Decoded.append {a b : List UInt8} {s t : List Char} (hs : Decoded a s)
    (ht : Decoded b t) : Decoded (a ++ b) (s ++ t) := by
  obtain ⟨p, rfl, rfl⟩ := hs
  obtain ⟨q, rfl, rfl⟩ := ht
  exact ⟨p ++ q, by simp, by simp⟩

theorem decoded_chunks (chunks : List (List UInt8)) :
    Decoded chunks.flatten (chunks.flatMap decode) := ⟨chunks, rfl, rfl⟩

theorem decoded_one (bs : List UInt8) : Decoded bs (decode bs) := ⟨[bs], by simp, by simp⟩

theorem decoded_empty : Decoded [] [] := ⟨[], rfl, rfl⟩

theorem Decoded.nil {t : List Char} (h : Decoded [] t) : t = [] := by
  obtain ⟨parts, hp, rfl⟩ := h
  rw [List.flatMap_eq_nil_iff]
  intro p hmem
  rw [List.flatten_eq_nil_iff.mp hp p hmem]
  rfl

/-- An ASCII byte is a boundary for every way of cutting. -/
theorem Decoded.split {xs ys : List UInt8} {a : UInt8} {t : List Char} (ha : a.toNat < 128)
    (h : Decoded (xs ++ a :: ys) t) :
    ∃ s u, t = s ++ Char.ofUInt8 a :: u ∧ Decoded xs s ∧ Decoded ys u := by
  obtain ⟨parts, hp, rfl⟩ := h
  induction parts generalizing xs with
  | nil => simp at hp
  | cons p ps ih =>
    rw [List.flatten_cons] at hp
    rw [List.flatMap_cons]
    rcases List.append_eq_append_iff.mp hp with ⟨c, rfl, hc⟩ | ⟨c, rfl, hc⟩
    · obtain ⟨s, u, hsu, hs, hu⟩ := ih hc
      exact ⟨decode p ++ s, u, by rw [hsu, List.append_assoc], (decoded_one p).append hs, hu⟩
    · cases c with
      | nil =>
        obtain ⟨s, u, hsu, hs, hu⟩ := @ih [] hc.symm
        rw [hs.nil] at hsu
        refine ⟨decode xs, u, by rw [hsu]; simp, decoded_one xs, hu⟩
      | cons d c =>
        obtain ⟨rfl, rfl⟩ := List.cons.inj hc
        refine ⟨decode xs, decode c ++ ps.flatMap decode, ?_, decoded_one xs,
          (decoded_one c).append (decoded_chunks ps)⟩
        rw [decode_ascii ha]
        simp

/-- An ASCII text at the start. -/
theorem Decoded.ascii_start {js : List Char} (hjs : ∀ c ∈ js, Ascii c) {ys : List UInt8}
    {t : List Char} (h : Decoded (js.map Char.toUInt8 ++ ys) t) :
    ∃ u, t = js ++ u ∧ Decoded ys u := by
  induction js generalizing t with
  | nil => exact ⟨t, rfl, h⟩
  | cons c js ih =>
    have hc := hjs c (by simp)
    have h0 : Decoded ([] ++ c.toUInt8 :: (js.map Char.toUInt8 ++ ys)) t := h
    obtain ⟨s, u, rfl, hs, hu⟩ := h0.split (by rw [toUInt8_toNat hc]; exact hc)
    obtain ⟨v, rfl, hv⟩ := ih (fun d hd => hjs d (by simp [hd])) hu
    exact ⟨v, by rw [hs.nil, ofUInt8_toUInt8 hc]; rfl, hv⟩

/-- An ASCII text anywhere, if it is not empty. -/
theorem Decoded.ascii_within {js : List Char} (hjs : ∀ c ∈ js, Ascii c) (hne : js ≠ [])
    {xs ys : List UInt8} {t : List Char} (h : Decoded (xs ++ (js.map Char.toUInt8 ++ ys)) t) :
    ∃ s u, t = s ++ js ++ u ∧ Decoded xs s ∧ Decoded ys u := by
  cases js with
  | nil => exact absurd rfl hne
  | cons c js =>
    have hc := hjs c (by simp)
    obtain ⟨s, u, rfl, hs, hu⟩ := Decoded.split (by rw [toUInt8_toNat hc]; exact hc) h
    obtain ⟨v, rfl, hv⟩ := Decoded.ascii_start (fun d hd => hjs d (by simp [hd])) hu
    exact ⟨s, v, by rw [ofUInt8_toUInt8 hc]; simp, hs, hv⟩

theorem Decoded.mem {bs : List UInt8} {t : List Char} (h : Decoded bs t) {c : Char}
    (hc : Ascii c) (hm : c ∈ t) : c.toUInt8 ∈ bs := by
  obtain ⟨parts, rfl, rfl⟩ := h
  obtain ⟨p, hp, hcp⟩ := List.mem_flatMap.mp hm
  exact List.mem_flatten.mpr ⟨p, hp, ascii_of_mem_decode hc hcp⟩

/-- An ASCII character is decoded just where its byte is. -/
theorem Decoded.mem_iff {bs : List UInt8} {t : List Char} (h : Decoded bs t) {c : Char}
    (hc : Ascii c) : c ∈ t ↔ c.toUInt8 ∈ bs := by
  constructor
  · exact h.mem hc
  · intro hb
    obtain ⟨xs, ys, rfl⟩ := List.append_of_mem hb
    obtain ⟨s, u, rfl, -, -⟩ := Decoded.split (by rw [toUInt8_toNat hc]; exact hc) h
    rw [ofUInt8_toUInt8 hc]
    exact List.mem_append_right s List.mem_cons_self

/-! ## Lines -/

/-- An ASCII JSON object text on one line: the listener looks at no more of it than this. -/
structure JsonText where
  chars : List Char
  ascii : ∀ c ∈ chars, Ascii c
  no_nul : '\x00' ∉ chars
  no_lf : '\n' ∉ chars
  no_cr : '\r' ∉ chars
  head : chars.head? = some '\x7b'
  last : chars.getLast? = some '\x7d'

/-- Noise without a brace, then at most one JSON text, then `\n` or `\r\n`. -/
structure StreamLine where
  noise : List UInt8
  json : Option JsonText
  crlf : Bool
  no_brace : 0x7b ∉ noise
  no_lf : 0x0a ∉ noise

def StreamLine.text (l : StreamLine) : List Char :=
  match l.json with
  | some js => js.chars
  | none => []

/-- The bytes of a line before its `\n`. -/
def StreamLine.body (l : StreamLine) : List UInt8 :=
  l.noise ++ (l.text.map Char.toUInt8 ++ if l.crlf then [0x0d] else [])

def StreamLine.bytes (l : StreamLine) : List UInt8 := l.body ++ [0x0a]

theorem strip_line {n js e : List Char} (hjs : js ≠ [])
    (hhead : ∀ c, js.head? = some c → isspace c = false)
    (hlast : ∀ c, js.getLast? = some c → isspace c = false) (he : ∀ c ∈ e, isspace c = true) :
    strip (n ++ js ++ e) = n.dropWhile isspace ++ js := by
  have hdrop : ∀ l : List Char, (l ++ js ++ e).dropWhile isspace =
      l.dropWhile isspace ++ js ++ e := by
    intro l
    induction l with
    | nil =>
      cases js with
      | nil => exact absurd rfl hjs
      | cons c js => simp [hhead c rfl]
    | cons c l ih =>
      cases hc : isspace c with
      | true => simpa [hc] using ih
      | false => simp [hc]
  unfold strip
  rw [hdrop]
  unfold List.rdropWhile
  rw [List.reverse_append, List.dropWhile_append_of_pos (by simpa using he)]
  obtain ⟨k, z, rfl⟩ : ∃ k z, js = k ++ [z] := by
    rcases List.eq_nil_or_concat js with h | ⟨k, z, h⟩
    · exact absurd h hjs
    · exact ⟨k, z, by simpa using h⟩
  have hz : isspace z = false := hlast z (by simp)
  simp [hz]

theorem JsonText.cons (js : JsonText) : ∃ r, js.chars = '\x7b' :: r := by
  have hh := js.head
  cases hc : js.chars with
  | nil => rw [hc] at hh; cases hh
  | cons c r => rw [hc] at hh; cases hh; exact ⟨r, rfl⟩

theorem JsonText.filter_nul (js : JsonText) : js.chars.filter (· != '\x00') = js.chars :=
  List.filter_eq_self.mpr (fun c hc => by
    have : c ≠ '\x00' := by rintro rfl; exact js.no_nul hc
    simpa using this)

theorem JsonText.strip_chars (js : JsonText) {n e : List Char} (he : ∀ c ∈ e, isspace c = true) :
    strip (n ++ js.chars ++ e) = n.dropWhile isspace ++ js.chars := by
  obtain ⟨r, hr⟩ := js.cons
  refine strip_line (by rw [hr]; simp) ?_ ?_ he
  · intro c hc; rw [js.head] at hc; cases hc; decide
  · intro c hc; rw [js.last] at hc; cases hc; decide

/-- A line with a JSON text hands on exactly that text. -/
theorem jsonOfLine_json (js : JsonText) {n e : List Char} (hn : '\x7b' ∉ n)
    (he : ∀ c ∈ e, isspace c = true) : jsonOfLine (n ++ js.chars ++ e) = some js.chars := by
  obtain ⟨r, hr⟩ := js.cons
  have hnoise : ∀ c ∈ (n.dropWhile isspace).filter (· != '\x00'), (c != '\x7b') = true := by
    intro c hc
    have hmem : c ∈ n := (List.dropWhile_sublist _).subset (List.mem_filter.mp hc).1
    have : c ≠ '\x7b' := by rintro rfl; exact hn hmem
    simpa using this
  unfold jsonOfLine
  simp only [js.strip_chars he, List.filter_append, js.filter_nul]
  rw [if_neg (by rw [hr]; simp), List.dropWhile_append_of_pos hnoise, hr]
  simp

/-- A line without a brace hands on nothing. -/
theorem jsonOfLine_noise {t : List Char} (ht : '\x7b' ∉ t) : jsonOfLine t = none := by
  have hsub : ∀ c ∈ (strip t).filter (· != '\x00'), (c != '\x7b') = true := by
    intro c hc
    have h1 : c ∈ strip t := (List.mem_filter.mp hc).1
    have h2 : c ∈ t.dropWhile isspace := ( List.rdropWhile_prefix _ _).subset h1
    have h3 : c ∈ t := (List.dropWhile_sublist _).subset h2
    have : c ≠ '\x7b' := by rintro rfl; exact ht h3
    simpa using this
  unfold jsonOfLine
  simp only
  split
  · rfl
  · have hnil : ((strip t).filter (· != '\x00')).dropWhile (· != '\x7b') = [] :=
      List.dropWhile_eq_nil_iff.mpr hsub
    rw [hnil]

theorem StreamLine.no_lf_body (l : StreamLine) : 0x0a ∉ l.body := by
  unfold StreamLine.body StreamLine.text
  intro h
  rcases List.mem_append.mp h with h | h
  · exact l.no_lf h
  · rcases List.mem_append.mp h with h | h
    · split at h
      · rename_i js _
        obtain ⟨c, hc, hb⟩ := List.mem_map.mp h
        have hn : c = '\n' := by
          rw [← ofUInt8_toUInt8 (js.ascii c hc), hb]; rfl
        exact js.no_lf (hn ▸ hc)
      · cases h
    · split at h
      · simp at h
      · cases h

theorem Decoded.free {bs : List UInt8} {t : List Char} (h : Decoded bs t) (hbs : 0x0a ∉ bs) :
    ∀ c ∈ t, isNewline c = false := by
  intro c hc
  cases hnl : isNewline c with
  | false => rfl
  | true =>
    have : c = '\n' := by simpa [isNewline] using hnl
    subst this
    exact absurd (h.mem (by decide) hc) hbs

/-- What the listener does with a complete line. -/
theorem jsonOfLine_body (l : StreamLine) {t : List Char} (h : Decoded l.body t) :
    jsonOfLine t = l.json.map JsonText.chars := by
  cases hj : l.json with
  | none =>
    refine jsonOfLine_noise (fun hm => ?_)
    have hb := h.mem (by decide) hm
    simp only [StreamLine.body, StreamLine.text, hj] at hb
    rcases List.mem_append.mp hb with hb | hb
    · exact l.no_brace hb
    · split at hb
      · simp only [List.map_nil, List.nil_append, List.mem_singleton] at hb
        exact absurd hb (by decide)
      · simp at hb
  | some js =>
    simp only [StreamLine.body, StreamLine.text, hj] at h
    have hne : js.chars ≠ [] := by intro he; have := js.head; rw [he] at this; cases this
    obtain ⟨n, e, rfl, hn, he⟩ := Decoded.ascii_within js.ascii hne h
    refine jsonOfLine_json js (fun hm => l.no_brace (hn.mem (by decide) hm)) ?_
    cases hc : l.crlf with
    | false =>
      rw [hc] at he
      rw [he.nil]; simp
    | true =>
      rw [hc] at he
      have hcr : Decoded (['\r'].map Char.toUInt8 ++ []) e := he
      obtain ⟨u, rfl, hu⟩ := hcr.ascii_start (by decide)
      rw [hu.nil]
      decide

/-! ## Delivery -/

/-- The lines of a decoded stream. -/
theorem feed_stream :
    ∀ (ls : List StreamLine) (tail : List UInt8) (t : List Char), 0x0a ∉ tail →
      Decoded (ls.flatMap StreamLine.bytes ++ tail) t →
      (feed isNewline [] t).1.filterMap jsonOfLine =
        ls.filterMap (fun l => l.json.map JsonText.chars) ∧
      Decoded tail (feed isNewline [] t).2
  | [], tail, t, htail, h => by
    have hfree := Decoded.free h htail
    rw [feed_none hfree]
    exact ⟨rfl, h⟩
  | l :: ls, tail, t, htail, h => by
    have hsplit : (l :: ls).flatMap StreamLine.bytes ++ tail =
        l.body ++ 0x0a :: (ls.flatMap StreamLine.bytes ++ tail) := by
      simp [StreamLine.bytes]
    rw [hsplit] at h
    obtain ⟨s, u, rfl, hs, hu⟩ := Decoded.split (by decide) h
    obtain ⟨h1, h2⟩ := feed_stream ls tail u htail hu
    rw [feed_line (hs.free l.no_lf_body) (by decide)]
    refine ⟨?_, h2⟩
    simp only [List.nil_append, List.filterMap_cons, jsonOfLine_body l hs, h1]

/-- The loop from a buffer that holds an unfinished line. -/
theorem listenerLoop_stream {start tail : List UInt8} {buffer : List Char}
    (hb : Decoded start buffer) (hstart : 0x0a ∉ start) (htail : 0x0a ∉ tail)
    (ls : List StreamLine) (chunks : List (List UInt8))
    (h : start ++ chunks.flatten = ls.flatMap StreamLine.bytes ++ tail) :
    (listenerLoop buffer chunks).2 = ls.filterMap (fun l => l.json.map JsonText.chars) ∧
      Decoded tail (listenerLoop buffer chunks).1 := by
  have hfree := hb.free hstart
  have hdec := hb.append (decoded_chunks chunks)
  rw [h] at hdec
  have hfeed : feed isNewline [] (buffer ++ chunks.flatMap decode) =
      feed isNewline buffer (chunks.flatMap decode) := by
    rw [feed_append, feed_none hfree]
    rfl
  obtain ⟨h1, h2⟩ := feed_stream ls tail _ htail hdec
  rw [hfeed] at h1 h2
  rw [listenerLoop_eq chunks buffer hfree]
  exact ⟨h1, h2⟩

/-- **Exact frame delivery**: whatever the chunks, the handler gets exactly the JSON texts of the
complete lines, in order; the unfinished line waits in the buffer, and what comes later completes
it. -/
theorem frames_delivered (ls : List StreamLine) (tail : List UInt8) (htail : 0x0a ∉ tail)
    (chunks : List (List UInt8)) (h : chunks.flatten = ls.flatMap StreamLine.bytes ++ tail) :
    (listenerLoop [] chunks).2 = ls.filterMap (fun l => l.json.map JsonText.chars) ∧
      Decoded tail (listenerLoop [] chunks).1 ∧
      ∀ (ls' : List StreamLine) (tail' : List UInt8) (chunks' : List (List UInt8)),
        0x0a ∉ tail' → tail ++ chunks'.flatten = ls'.flatMap StreamLine.bytes ++ tail' →
        (listenerLoop (listenerLoop [] chunks).1 chunks').2 =
          ls'.filterMap (fun l => l.json.map JsonText.chars) := by
  obtain ⟨h1, h2⟩ := listenerLoop_stream decoded_empty (by simp) htail ls chunks (by simpa using h)
  exact ⟨h1, h2, fun ls' tail' chunks' htail' h' =>
    (listenerLoop_stream h2 htail htail' ls' chunks' h').1⟩

/-- The text of an empty object. -/
def emptyObject : JsonText where
  chars := ['\x7b', '\x7d']
  ascii := by decide
  no_nul := by decide
  no_lf := by decide
  no_cr := by decide
  head := rfl
  last := rfl

/-- A stray byte, an object and a `\r\n`, cut inside the object and inside the line end, with half
of a multi-byte character after it. -/
theorem frames_delivered_cut :
    (listenerLoop [] [[0xff], [0x20, 0x7b], [0x7d, 0x0d], [0x0a, 0xc3]]).2 =
      [['\x7b', '\x7d']] :=
  (frames_delivered [⟨[0xff, 0x20], some emptyObject, true, by decide, by decide⟩] [0xc3]
    (by decide) [[0xff], [0x20, 0x7b], [0x7d, 0x0d], [0x0a, 0xc3]] (by decide)).1

end SmartLocker.Gateway
