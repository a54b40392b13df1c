import Mathlib.Tactic
import ProbeCampaign.Proofs.Json.ReadBack
import ProbeCampaign.Proofs.Text.Utf8
import ProbeCampaign.Response

/-!
# Header lists in JSON

Header lists are read back from their JSON text, whatever characters the headers hold
(`parseList?_renderList`), and the text itself holds no character below the blank (`mem_renderList`).
So they survive as bytes too (`renderList_faithful`).
-/

namespace ProbeCampaign.Header

theorem mapM_ofDatum? (headers : List Header) :
    (headers.map toDatum).mapM ofDatum? = some headers := by
  induction headers with
  | nil => rfl
  | cons h headers ih =>
    rw [List.map_cons, List.mapM_cons, ih]
    rfl

theorem readable_toDatum (depth : Nat) (h : Header) : Json.Readable (depth + 1) h.toDatum := by
  have htexts : ∀ d ∈ [Datum.text h.1, .text h.2], Json.Readable depth d := by
    simp [Json.Readable.text]
  exact .list htexts

/-- No control character is in the text of a header. -/
theorem mem_compact_toDatum {h : Header} {c : Char} (hc : c ∈ Json.compact h.toDatum) :
    32 ≤ c.toNat := by
  refine Json.mem_compact_list (fun d hd => ?_) c hc
  simp only [List.map_cons, List.map_nil, List.mem_cons, List.not_mem_nil, or_false] at hd
  rcases hd with rfl | rfl
  · exact fun c hc => Json.mem_quote hc
  · exact fun c hc => Json.mem_quote hc

/-- Header lists are read back from their JSON text, whatever the names and values hold. -/
theorem parseList?_renderList (headers : List Header) :
    parseList? (renderList headers) = some headers := by
  have hreadable : Json.Readable Json.maxDepth (.list (headers.map toDatum)) := by
    refine .list fun d hd => ?_
    obtain ⟨h, -, rfl⟩ := List.mem_map.1 hd
    exact readable_toDatum 125 h
  rw [parseList?, renderList, Json.parseChars?_compact hreadable]
  exact mapM_ofDatum? headers

/-- The JSON text of a header list holds no character below the blank. -/
theorem mem_renderList {headers : List Header} {c : Char} (hc : c ∈ renderList headers) :
    32 ≤ c.toNat := by
  refine Json.mem_compact_list (fun d hd => ?_) c hc
  obtain ⟨h, -, rfl⟩ := List.mem_map.1 hd
  exact fun c hc => mem_compact_toDatum hc

/-- Lists of headers have different texts. -/
theorem renderList_inj {as bs : List Header} : renderList as = renderList bs ↔ as = bs := by
  constructor
  · intro h
    have hread := congrArg parseList? h
    rw [parseList?_renderList, parseList?_renderList] at hread
    exact Option.some.inj hread
  · rintro rfl
    rfl

/-- No byte of the text is below the blank either, as the bytes beyond ASCII are larger. -/
theorem le_of_mem_bytes_renderList {headers : List Header} {b : UInt8}
    (hb : b ∈ Utf8.bytes (renderList headers)) : 32 ≤ b.toNat := by
  rcases Utf8.toNat_of_mem_bytes hb with ⟨c, hc, heq⟩ | hhigh
  · rw [heq]
    exact mem_renderList hc
  · exact le_trans (by decide) hhigh

/-- A header list is read back from the bytes of its JSON text, each header in its place, whatever
the names and values hold; and none of these bytes is below the blank. -/
theorem renderList_faithful (headers : List Header) :
    (Utf8.decode? (Utf8.bytes (renderList headers)) >>= parseList?) = some headers ∧
      ∀ b ∈ Utf8.bytes (renderList headers), 32 ≤ b.toNat := by
  refine ⟨?_, fun b hb => le_of_mem_bytes_renderList hb⟩
  rw [Utf8.decode?_bytes, Option.bind_eq_bind, Option.bind_some]
  exact parseList?_renderList headers

/-- Characters beyond the control characters of ASCII are written as they are. -/
example : renderList [("\x01\n\x7f", "\"\u2028\\")] =
    "[[\"\\u0001\\n\x7f\",\"\\\"\u2028\\\\\"]]".toList := by
  decide

end ProbeCampaign.Header
