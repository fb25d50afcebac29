import Ppaass.Agent.Transport

/-!
# What the request decoder is handed

`HttpLib.recording` is a library with a ghost: its decoder remembers every byte it was handed. The
codec hands the decoder its whole read buffer at each call, and takes nothing off it. So the bytes
of the client reach the decoder once, and give the request that they give in one read, exactly where
the first read is enough for the request (`handed_once_iff`).
-/

namespace Ppaass.Agent

open Wire Framed

namespace HttpLib

/-- The library with a decoder that remembers what it was handed. -/
abbrev recording (http : HttpLib) : HttpLib :=
  { http with
    RequestDecoder := Bytes × http.RequestDecoder
    requestDecoder := ([], http.requestDecoder)
    decodeExact := fun (handed, decoder) bytes =>
      ((http.decodeExact decoder bytes).1, (handed ++ bytes, (http.decodeExact decoder bytes).2)) }

/-- The request that the library makes of a whole stream, if it holds one. -/
def requestIn (http : HttpLib) (bytes : Bytes) : Option http.Request :=
  match http.decodeExact http.requestDecoder bytes with
  | (.done request, _) => some request
  | _ => .none

end HttpLib

variable (http : HttpLib)

/-- The codec's decoder and read buffer after the calls. -/
def finalState {σ ε α : Type} : EStateM.Result ε σ α → σ
  | .ok _ s => s
  | .error _ s => s

/-- The bytes the request decoder has been handed after the calls on `reads`, and the reads that
were not made; `already` are the bytes it had been handed before. -/
def handedFrom (already : Bytes) (decoder : http.RequestDecoder) (buf : Bytes)
    (reads : List Bytes) : Bytes × List Bytes :=
  let r := pollReads (HttpCodec.decode http.recording) (already, decoder) buf reads
  ((finalState r.1).1.1, r.2)

def handed (reads : List Bytes) : Bytes × List Bytes :=
  handedFrom http [] http.requestDecoder [] reads

/-- The request that the calls on `reads` end with, if they end with one. -/
def requestFrom (decoder : http.RequestDecoder) (buf : Bytes) (reads : List Bytes) :
    Option http.Request :=
  match (pollReads (HttpCodec.decode http) decoder buf reads).1 with
  | .ok request _ => request
  | .error _ _ => none

def requestOf (reads : List Bytes) : Option http.Request :=
  requestFrom http http.requestDecoder [] reads

/-- What is to hold of the calls on `reads`: the decoder was handed the bytes that were read, once
and in order, and the request is the one that the same bytes give in one read. -/
structure ReadsRequest (reads : List Bytes) : Prop where
  once : (handed http reads).1 ++ (handed http reads).2.flatten = reads.flatten
  same : requestOf http reads = requestOf http [reads.flatten]

/-- The first read that holds any bytes completes the request; where there is none in the stream,
that read is refused or is the last. -/
def FirstRead (request : Option http.Request) : http.RequestDecoder → List Bytes → Prop
  | _, [] => request = none
  | decoder, chunk :: chunks =>
    match http.decodeExact decoder chunk with
    | (.done first, _) => request = some first
    | (.error _, _) => request = none
    | (.incompleteDecoding, decoder') =>
      if chunk = [] then FirstRead request decoder' chunks else chunks = [] ∧ request = none

section
variable {http} {decoder decoder' : http.RequestDecoder} {already buf chunk : Bytes}
  {chunks : List Bytes}

/-- A call hands the decoder the whole buffer and leaves it there. -/
theorem run_decode {r : DecodeExact http.Request}
    (h : http.decodeExact decoder buf = (r, decoder')) :
    (HttpCodec.decode http).run (decoder, buf) =
      match r with
      | .done request => .ok (some request) (decoder', buf)
      | .incompleteDecoding => .ok none (decoder', buf)
      | .error e => .error (.err (.lowLevel e)) (decoder', buf) := by
  simp only [HttpCodec.decode, EStateM.run_bind, EStateM.run_get, h, run_setCodec]
  cases r <;> rfl

theorem decodeExact_recording (already : Bytes) {r : DecodeExact http.Request}
    (h : http.decodeExact decoder buf = (r, decoder')) :
    http.recording.decodeExact (already, decoder) buf = (r, (already ++ buf, decoder')) := by
  simp [h]

theorem handedFrom_more (h : http.decodeExact decoder (buf ++ chunk) =
    (.incompleteDecoding, decoder')) :
    handedFrom http already decoder buf (chunk :: chunks) =
      handedFrom http (already ++ (buf ++ chunk)) decoder' (buf ++ chunk) chunks := by
  have hrun := run_decode (decodeExact_recording already h)
  rw [handedFrom, pollReads_none hrun]
  rfl

theorem handedFrom_stop (h : (http.decodeExact decoder (buf ++ chunk)).1 ≠ .incompleteDecoding) :
    handedFrom http already decoder buf (chunk :: chunks) =
      (already ++ (buf ++ chunk), chunks) := by
  rcases hdec : http.decodeExact decoder (buf ++ chunk) with ⟨request | _ | e, decoder'⟩
  · have hrun := run_decode (decodeExact_recording already hdec)
    rw [handedFrom, pollReads, hrun]
    rfl
  · rw [hdec] at h
    exact absurd rfl h
  · have hrun := run_decode (decodeExact_recording already hdec)
    rw [handedFrom, pollReads, hrun]
    rfl

theorem requestFrom_more (h : http.decodeExact decoder (buf ++ chunk) =
    (.incompleteDecoding, decoder')) :
    requestFrom http decoder buf (chunk :: chunks) =
      requestFrom http decoder' (buf ++ chunk) chunks := by
  rw [requestFrom, pollReads_none (run_decode h)]
  rfl

theorem requestFrom_done {request : http.Request}
    (h : http.decodeExact decoder (buf ++ chunk) = (.done request, decoder')) :
    requestFrom http decoder buf (chunk :: chunks) = some request := by
  rw [requestFrom, pollReads, run_decode h]

theorem requestFrom_error {e : BytecodecError}
    (h : http.decodeExact decoder (buf ++ chunk) = (.error e, decoder')) :
    requestFrom http decoder buf (chunk :: chunks) = none := by
  rw [requestFrom, pollReads, run_decode h]

theorem incomplete_or (decoder : http.RequestDecoder) (bytes : Bytes) :
    (∃ decoder', http.decodeExact decoder bytes = (.incompleteDecoding, decoder')) ∨
      (http.decodeExact decoder bytes).1 ≠ .incompleteDecoding := by
  rcases http.decodeExact decoder bytes with ⟨request | _ | e, decoder'⟩
  · exact .inr (by simp)
  · exact .inl ⟨decoder', rfl⟩
  · exact .inr (by simp)

/-- The decoder is handed no less than was in the buffer and has been read since. -/
theorem le_handedFrom (already : Bytes) (decoder : http.RequestDecoder) (buf : Bytes)
    (hne : chunks ≠ []) :
    already.length + buf.length + chunks.flatten.length ≤
      (handedFrom http already decoder buf chunks).1.length +
        (handedFrom http already decoder buf chunks).2.flatten.length := by
  induction chunks generalizing already decoder buf with
  | nil => exact (hne rfl).elim
  | cons chunk chunks ih =>
    rcases incomplete_or decoder (buf ++ chunk) with ⟨decoder', hmore⟩ | hstop
    · rw [handedFrom_more hmore]
      rcases chunks with _ | ⟨chunk', chunks⟩
      · simp [handedFrom, pollReads, finalState]
        omega
      · have hle := ih (already ++ (buf ++ chunk)) decoder' (buf ++ chunk) (by simp)
        simp only [List.length_append, List.flatten_cons] at hle ⊢
        omega
    · rw [handedFrom_stop hstop]
      simp only [List.length_append, List.flatten_cons]
      omega

theorem requestOf_one (bytes : Bytes) : requestOf http [bytes] = http.requestIn bytes := by
  rcases hdec : http.decodeExact http.requestDecoder bytes with ⟨request | _ | e, decoder'⟩
  · rw [HttpLib.requestIn, hdec]
    exact requestFrom_done hdec
  · rw [HttpLib.requestIn, hdec]
    exact requestFrom_more hdec
  · rw [HttpLib.requestIn, hdec]
    exact requestFrom_error hdec

/-- **Each byte is handed over once, and gives `request`**, exactly where the first read does. -/
theorem firstRead_iff (request : Option http.Request) (decoder : http.RequestDecoder)
    (reads : List Bytes) :
    (handedFrom http [] decoder [] reads).1 ++ (handedFrom http [] decoder [] reads).2.flatten =
        reads.flatten ∧ requestFrom http decoder [] reads = request ↔
      FirstRead http request decoder reads := by
  induction reads generalizing decoder with
  | nil => exact ⟨fun h => h.2.symm, fun h => ⟨rfl, h.symm⟩⟩
  | cons chunk chunks ih =>
    rcases hdec : http.decodeExact decoder chunk with ⟨first | _ | e, decoder'⟩
    · rw [FirstRead, hdec, handedFrom_stop (by simp [hdec]), requestFrom_done hdec]
      simp [eq_comm]
    · rw [FirstRead, hdec, handedFrom_more hdec, requestFrom_more hdec]
      simp only [List.nil_append]
      by_cases hchunk : chunk = []
      · subst hchunk
        rw [if_pos rfl, ← ih decoder', List.flatten_cons, List.nil_append]
      rw [if_neg hchunk]
      rcases chunks with _ | ⟨chunk', chunks⟩
      · simp [handedFrom, requestFrom, pollReads, finalState, eq_comm]
      · -- the second call hands over the first read again
        refine iff_of_false (fun h => ?_) (by simp)
        have hpos := List.length_pos_iff.2 hchunk
        have hle := le_handedFrom chunk decoder' chunk (List.cons_ne_nil chunk' chunks)
        have hlen := congrArg List.length h.1
        simp only [List.length_append, List.flatten_cons] at hle hlen
        omega
    · rw [FirstRead, hdec, handedFrom_stop (by simp [hdec]), requestFrom_error hdec]
      simp [eq_comm]

end

/-- **The client's bytes reach the request decoder once, and give the same request however they are
cut**, for exactly those cuts whose first read is enough for the request: a call on part of a
request fails, or its bytes are handed over again by the next. -/
theorem handed_once_iff (http : HttpLib) (reads : List Bytes) :
    ReadsRequest http reads ↔
      FirstRead http (http.requestIn reads.flatten) http.requestDecoder reads := by
  rw [← firstRead_iff, ← requestOf_one]
  exact ⟨fun h => ⟨h.once, h.same⟩, fun h => ⟨h.1, h.2⟩⟩

/-! ## Requests that end with an empty line -/

/-- The bytes up to the first empty line. -/
def upToEmptyLine : Bytes → Option Bytes
  | 13 :: 10 :: 13 :: 10 :: _ => some [13, 10, 13, 10]
  | b :: bytes => (upToEmptyLine bytes).map (b :: ·)
  | [] => none

/-- The library whose requests are complete with an empty line. On bytes that hold none, as
`decode_exact` does, it runs into their end. -/
abbrev HttpLib.lines : HttpLib :=
  { HttpLib.none with
    Request := Bytes
    method := fun _ => "CONNECT"
    requestTarget := fun _ => ""
    RequestDecoder := Bytes
    requestDecoder := []
    decodeExact := fun kept bytes =>
      match upToEmptyLine (kept ++ bytes) with
      | .some request => (.done request, [])
      | .none => (.error "UnexpectedEos", kept ++ bytes)
    encodeRequest := fun request => .ok request }

/-- A request in one read, and early data in the next. -/
theorem lines_reads_request :
    ReadsRequest HttpLib.lines [utf8 "CONNECT a:1 HTTP/1.1\r\n\r\n", [1, 2]] := by
  let request := utf8 "CONNECT a:1 HTTP/1.1\r\n\r\n"
  have hline : upToEmptyLine request = some request := by decide +kernel
  have hrequest : HttpLib.lines.requestIn [request, [1, 2]].flatten = some request := by
    decide +kernel
  apply (handed_once_iff HttpLib.lines _).2
  simp only [FirstRead, List.nil_append, request, hline]
  exact hrequest

/-- A request cut after its first line: it is refused, and in one read it is not. -/
theorem first_line_refused :
    ¬ ReadsRequest HttpLib.lines [utf8 "CONNECT a:1 HTTP/1.1\r\n", utf8 "\r\n"] := by
  intro h
  have hsame := h.same
  revert hsame
  decide +kernel

end Ppaass.Agent
