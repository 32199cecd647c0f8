import RelayGateway.Http.Post
import RelayGateway.Proofs.Relay.Precedence
import RelayGateway.Proofs.Text.Utf8

/-! # What is kept of a failed reply

Of a long text the beginning is kept, with a mark in the place of the rest. Nothing is told by it that the
whole text does not tell: no phrase lies in the mark, and none across the cut.
-/
namespace RelayGateway.HttpReply

def text (r : HttpReply) : String := Text.lossy (r.body?.getD [])

def isFailure (r : HttpReply) : Bool :=
  100 ≤ r.status && r.status ≤ 999 && !r.isInterim && !r.isSuccess

structure Excerpt (text kept : String) : Prop where
  whole : text.utf8ByteSize ≤ 256 → kept = text
  cut : 256 < text.utf8ByteSize → ∃ beginning rest, text = beginning ++ rest ∧
    253 ≤ beginning.utf8ByteSize ∧ beginning.utf8ByteSize ≤ 256 ∧
      kept = beginning ++ "... (truncated)"
  /-- What it tells, or what takes precedence over that, is told by the whole text. -/
  truthful : ∀ kind, classifyMessage kept = some kind →
    ∃ kind', classifyMessage text = some kind' ∧ kind'.Supersedes kind

variable {reply : HttpReply} {url text : String}

/-- Any text can be the text of a reply that has one. -/
theorem text_ofString {status : Nat} (h : [101, 204, 304].contains status = false) (text : String) :
    (HttpReply.mk status (Bytes.ofString text) .complete).text = text := by
  unfold HttpReply.text body? isBodiless
  rw [h]
  exact Text.lossy_ofString text

/-! ## The cut -/

theorem failureText_of_le (h : text.utf8ByteSize ≤ 256) : failureText text = text := if_pos h

theorem failureText_of_lt (h : 256 < text.utf8ByteSize) : ∃ beginning rest,
    text = beginning ++ rest ∧ 253 ≤ beginning.utf8ByteSize ∧ beginning.utf8ByteSize ≤ 256 ∧
      failureText text = beginning ++ "... (truncated)" := by
  have hcount : 256 < Text.byteCount text.toList := by
    rwa [← Text.utf8ByteSize_ofList, String.ofList_toList]
  obtain ⟨rest, hrest⟩ := Text.fitting_prefix 256 text.toList
  have hlow := Text.lt_byteCount_fitting hcount
  refine ⟨String.ofList (Text.fitting 256 text.toList), String.ofList rest, ?_, ?_, ?_, ?_⟩
  · rw [← String.ofList_append, hrest, String.ofList_toList]
  · rw [Text.utf8ByteSize_ofList]
    omega
  · rw [Text.utf8ByteSize_ofList]
    exact Text.byteCount_fitting_le 256 text.toList
  · exact if_neg (Nat.not_le_of_lt h)

/-! ## The mark -/

/-- No phrase occurs in the mark, or goes on in it. -/
theorem mark_untelling : ∀ p ∈ telling,
    Text.crosses [] (Text.lower "... (truncated)") p.toList = false ∧
      Text.mentions (Text.lower "... (truncated)") p = false := by
  decide +kernel

theorem mentions_marked {p : String} (hp : p ∈ telling) (beginning : String) :
    Text.mentions (Text.lower (beginning ++ "... (truncated)")) p =
      Text.mentions (Text.lower beginning) p := by
  obtain ⟨hcrosses, hmark⟩ := mark_untelling p hp
  have happend := Text.occurs_append hcrosses (Text.lower beginning) []
  rw [List.append_nil, List.append_nil] at happend
  unfold Text.mentions at hmark ⊢
  rw [Text.lower_append, happend, hmark, Bool.or_false]

theorem failureText_truthful {kind : EndpointErrorKind}
    (htold : classifyMessage (failureText text) = some kind) :
    ∃ kind', classifyMessage text = some kind' ∧ kind'.Supersedes kind := by
  refine kindTold_mono (fun p hp hmentions => ?_) htold
  by_cases hlength : text.utf8ByteSize ≤ 256
  · rwa [failureText_of_le hlength] at hmentions
  · obtain ⟨beginning, rest, htext, -, -, hkept⟩ := failureText_of_lt (Nat.lt_of_not_le hlength)
    rw [hkept, mentions_marked hp] at hmentions
    refine Text.mentions_of_isInfix ?_ hmentions
    rw [htext, Text.lower_append]
    exact (List.prefix_append ..).isInfix

theorem failureText_excerpt (text : String) : Excerpt text (failureText text) :=
  ⟨failureText_of_le, failureText_of_lt, fun _ => failureText_truthful⟩

/-! ## The failure -/

theorem result_of_isFailure (failed : reply.isFailure = true) :
    reply.result = .error (.httpStatus reply.status (failureText reply.text)) := by
  unfold isFailure at failed
  simp only [Bool.and_eq_true, decide_eq_true_eq, Bool.not_eq_true'] at failed
  obtain ⟨⟨⟨hlow, hhigh⟩, hfinal⟩, hsuccess⟩ := failed
  unfold result
  rw [if_neg (by omega), hfinal, hsuccess]
  rfl

/-- A failed reply becomes a failure with its status and an excerpt of its text. -/
theorem post_excerpt (failed : reply.isFailure = true) (reached : HttpTransport.refusal? url = none) :
    ∃ kept, HttpTransport.post (.replies reply) url = .error (.httpStatus reply.status kept) ∧
      Excerpt reply.text kept := by
  refine ⟨failureText reply.text, ?_, failureText_excerpt reply.text⟩
  unfold HttpTransport.post
  rw [reached]
  exact result_of_isFailure failed

section Example

/-- A text whose 256th byte lies within a character. -/
def longText : String := String.ofList ("rate limit ".toList ++ List.replicate 90 '€')

def longReply : HttpReply := ⟨502, Bytes.ofString longText, .complete⟩

theorem post_excerpt_within_character :
    longReply.isFailure = true ∧ HttpTransport.refusal? "https://node" = none ∧
      256 < longReply.text.utf8ByteSize ∧
      ∃ beginning rest, longReply.text = beginning ++ rest ∧
        253 ≤ beginning.utf8ByteSize ∧ beginning.utf8ByteSize ≤ 256 ∧
          HttpTransport.post (.replies longReply) "https://node" =
            .error (.httpStatus 502 (beginning ++ "... (truncated)")) := by
  have hreached : HttpTransport.refusal? "https://node" = none := by decide +kernel
  have hlong : 256 < longReply.text.utf8ByteSize := by
    have htext : longReply.text = longText := @text_ofString 502 rfl longText
    have hsize := (congrArg String.utf8ByteSize htext).trans (Text.utf8ByteSize_ofList _)
    have hcount : 256 < Text.byteCount ("rate limit ".toList ++ List.replicate 90 '€') := by
      decide +kernel
    exact hcount.trans_eq hsize.symm
  have hfailed : longReply.isFailure = true := by decide +kernel
  obtain ⟨kept, hpost, hexcerpt⟩ := post_excerpt hfailed hreached
  obtain ⟨beginning, rest, htext, hlow, hhigh, rfl⟩ := hexcerpt.cut hlong
  exact ⟨hfailed, hreached, hlong, beginning, rest, htext, hlow, hhigh, hpost⟩

end Example

end RelayGateway.HttpReply
