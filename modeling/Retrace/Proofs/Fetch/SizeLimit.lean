import Mathlib
import Retrace.Fetch

/-!
# The limit on the size of artifacts

No artifact is fetched that is larger than the limit, and every other one is fetched whole, whether
it comes from disk, over the network with its length said in advance, or in chunks
(`fetch_sizeLimit`). How a body is split into chunks does not matter for that; for one that is too
large, it decides how much of it is read before the limit is noticed.

Reading a body is told by a `Reader`, which takes in one chunk after another as long as they fit.
What it holds is what it has taken of the chunks (`Reader.Within`), so that it never holds more than
the limit, and where it stops decides the result.
-/

namespace Retrace

namespace Reply

variable {limit : ℕ} {chunks : List Bytes}

/-! ### Reading chunk by chunk -/

/-- A reader of a body: what it holds, and the chunks that are still to come. -/
structure Reader where
  held : Bytes
  coming : List Bytes

namespace Reader

variable {r r' : Reader}

/-- The reader before it has taken anything in. -/
def start (chunks : List Bytes) : Reader := ⟨[], chunks⟩

/-- The reader after the next chunk, if there is one and if it fits. -/
def next? (limit : ℕ) : Reader → Option Reader
  | ⟨_, []⟩ => none
  | ⟨held, chunk :: rest⟩ =>
    if limit < held.length + chunk.length then none else some ⟨held ++ chunk, rest⟩

/-- What comes of reading on. -/
def result (limit : ℕ) (r : Reader) : Except Fetch.Error Bytes :=
  readChunks limit r.held r.coming

/-- A reader comes to another one by taking in chunks. -/
abbrev Reaches (limit : ℕ) : Reader → Reader → Prop :=
  Relation.ReflTransGen fun r r' => r.next? limit = some r'

/-- A reader that takes in a chunk held room for it. -/
lemma next?_eq_some_iff :
    r.next? limit = some r' ↔ ∃ chunk, r.coming = chunk :: r'.coming ∧
      r'.held = r.held ++ chunk ∧ r.held.length + chunk.length ≤ limit := by
  obtain ⟨held, coming⟩ := r
  obtain ⟨held', coming'⟩ := r'
  cases coming with
  | nil => simp [next?]
  | cons chunk rest =>
    rw [next?]
    split
    · next hlt =>
      constructor
      · intro h
        cases h
      · rintro ⟨_, hcoming, -, hle⟩
        obtain ⟨rfl, -⟩ := List.cons.inj hcoming
        exact absurd hlt (Nat.not_lt.mpr hle)
    · next hle =>
      constructor
      · intro h
        cases h
        exact ⟨chunk, rfl, rfl, Nat.not_lt.mp hle⟩
      · rintro ⟨_, hcoming, rfl, -⟩
        obtain ⟨rfl, rfl⟩ := List.cons.inj hcoming
        rfl

/-- Taking in a chunk does not change what comes of reading on. -/
lemma result_of_next? (h : r.next? limit = some r') : r.result limit = r'.result limit := by
  obtain ⟨chunk, hcoming, hheld, hle⟩ := next?_eq_some_iff.mp h
  rw [result, result, hcoming, hheld, readChunks]
  exact if_neg (Nat.not_lt.mpr hle)

/-- Neither does taking in several chunks. -/
lemma Reaches.result_eq (h : Reaches limit r r') : r.result limit = r'.result limit := by
  induction h with
  | refl => rfl
  | tail _ hnext ih => rw [ih, result_of_next? hnext]

/-- A reader that stops has everything, or the next chunk does not fit. -/
lemma result_of_stop (h : r.next? limit = none) :
    (r.coming = [] ∧ r.result limit = .ok r.held) ∨
      ∃ chunk rest, r.coming = chunk :: rest ∧ limit < r.held.length + chunk.length ∧
        r.result limit = .error (.tooLarge (r.held.length + chunk.length) limit) := by
  obtain ⟨held, coming⟩ := r
  cases coming with
  | nil => exact .inl ⟨rfl, rfl⟩
  | cons chunk rest =>
    rw [next?] at h
    split at h
    · next hlt => exact .inr ⟨chunk, rest, rfl, hlt, if_pos hlt⟩
    · cases h

/-- Every reader comes to stop. -/
lemma exists_stop (limit : ℕ) (r : Reader) :
    ∃ last, Reaches limit r last ∧ last.next? limit = none := by
  obtain ⟨held, coming⟩ := r
  induction coming generalizing held with
  | nil => exact ⟨_, .refl, rfl⟩
  | cons chunk rest ih =>
    cases hnext : next? limit ⟨held, chunk :: rest⟩ with
    | none => exact ⟨_, .refl, hnext⟩
    | some r' =>
      obtain ⟨_, hcoming, -, -⟩ := next?_eq_some_iff.mp hnext
      obtain ⟨-, hrest⟩ := List.cons.inj hcoming
      obtain ⟨last, hreaches, hstop⟩ := ih r'.held
      rw [hrest] at hreaches
      exact ⟨last, .head hnext hreaches, hstop⟩

/-- What a reader of `chunks` holds is what it has taken of them, and within the limit. -/
structure Within (limit : ℕ) (chunks : List Bytes) (r : Reader) : Prop where
  taken : ∃ taken, taken ++ r.coming = chunks ∧ r.held = taken.flatten
  size : r.held.length ≤ limit

lemma within_start (limit : ℕ) (chunks : List Bytes) : (start chunks).Within limit chunks :=
  ⟨⟨[], rfl, rfl⟩, Nat.zero_le limit⟩

/-- A chunk that fits keeps a reader within the limit. -/
lemma Within.next (h : r.Within limit chunks) (hnext : r.next? limit = some r') :
    r'.Within limit chunks := by
  obtain ⟨chunk, hcoming, hheld, hle⟩ := next?_eq_some_iff.mp hnext
  obtain ⟨taken, hchunks, htaken⟩ := h.taken
  refine ⟨⟨taken ++ [chunk], ?_, ?_⟩, ?_⟩
  · rw [List.append_assoc, List.singleton_append, ← hcoming, hchunks]
  · rw [hheld, htaken, List.flatten_append, List.flatten_singleton]
  · rw [hheld, List.length_append]
    exact hle

/-- A reader stays within the limit. -/
lemma Within.of_reaches (h : r.Within limit chunks) (hreaches : Reaches limit r r') :
    r'.Within limit chunks := by
  induction hreaches with
  | refl => exact h
  | tail _ hnext ih => exact ih.next hnext

end Reader

/-! ### Bodies within the limit and beyond -/

/-- A shortest run of leading chunks that is larger than the limit. -/
structure IsOverrun (limit : ℕ) (chunks run : List Bytes) : Prop where
  leading : run <+: chunks
  exceeds : limit < run.flatten.length
  shortest : ∀ other, other <+: chunks → limit < other.flatten.length →
    run.length ≤ other.length

/-- Chunks that fit, and one more that does not, are a shortest run that is too large. -/
lemma isOverrun_concat {taken : List Bytes} {chunk : Bytes}
    (hleading : taken ++ [chunk] <+: chunks) (hfits : taken.flatten.length ≤ limit)
    (hexceeds : limit < taken.flatten.length + chunk.length) :
    IsOverrun limit chunks (taken ++ [chunk]) where
  leading := hleading
  exceeds := by simpa using hexceeds
  shortest other hother hlimit := by
    by_contra hshorter
    -- a shorter run is among the chunks that fit
    have hlength : other.length ≤ taken.length := by
      rw [List.length_append, List.length_singleton] at hshorter
      omega
    have htaken : taken <+: chunks := (List.prefix_append taken [chunk]).trans hleading
    have hle : other.flatten.length ≤ taken.flatten.length :=
      (List.prefix_of_prefix_length_le hother htaken hlength).flatten.length_le
    omega

/-- Reading chunk by chunk gives the whole body if it is within the limit, and else notices this at
the end of the shortest run of chunks that is too large. -/
lemma readChunks_spec (limit : ℕ) (chunks : List Bytes) :
    (chunks.flatten.length ≤ limit → readChunks limit [] chunks = .ok chunks.flatten) ∧
      (limit < chunks.flatten.length → ∃ run, IsOverrun limit chunks run ∧
        readChunks limit [] chunks = .error (.tooLarge run.flatten.length limit)) := by
  obtain ⟨last, hreaches, hstop⟩ := Reader.exists_stop limit (Reader.start chunks)
  have hresult : readChunks limit [] chunks = last.result limit := hreaches.result_eq
  obtain ⟨⟨taken, hchunks, hheld⟩, hsize⟩ := (Reader.within_start limit chunks).of_reaches hreaches
  rw [hresult]
  rcases Reader.result_of_stop hstop with ⟨hnil, hok⟩ | ⟨chunk, rest, hcoming, hlt, herror⟩
  · rw [hnil, List.append_nil] at hchunks
    rw [hok, hheld, ← hchunks]
    rw [hheld, hchunks] at hsize
    exact ⟨fun _ => rfl, fun hexceeds => absurd hexceeds (Nat.not_lt.mpr (hchunks ▸ hsize))⟩
  · rw [hcoming, List.append_cons] at hchunks
    have hrun : IsOverrun limit chunks (taken ++ [chunk]) :=
      isOverrun_concat ⟨rest, hchunks⟩ (hheld ▸ hsize) (hheld ▸ hlt)
    have hlength : (taken ++ [chunk]).flatten.length = last.held.length + chunk.length := by
      rw [hheld, List.flatten_append, List.flatten_singleton, List.length_append]
    have hbody : (taken ++ [chunk]).flatten.length ≤ chunks.flatten.length :=
      hrun.leading.flatten.length_le
    refine ⟨fun hfits => ?_, fun _ => ⟨taken ++ [chunk], hrun, by rw [herror, hlength]⟩⟩
    omega

/-- A reply that is no success gives its status, whatever its body. -/
lemma body?_of_not_success {reply : Reply} (h : ¬ (200 ≤ reply.status ∧ reply.status < 300))
    (limit : ℕ) : reply.body? limit = .error (.badStatus reply.status) := by
  have hsuccess : reply.isSuccess = false := by
    rw [isSuccess]
    simpa using h
  rw [body?, hsuccess]
  rfl

/-- The body of a reply that says its length is not read if it is too large. -/
lemma body?_sized (limit : ℕ) (chunks : List Bytes) :
    body? ⟨200, some chunks.flatten.length, chunks⟩ limit =
      if chunks.flatten.length ≤ limit then .ok chunks.flatten
      else .error (.tooLarge chunks.flatten.length limit) := by
  have hbody : body? ⟨200, some chunks.flatten.length, chunks⟩ limit =
      if limit < chunks.flatten.length then .error (.tooLarge chunks.flatten.length limit)
      else readChunks limit [] chunks := rfl
  rw [hbody]
  by_cases hle : chunks.flatten.length ≤ limit
  · rw [if_neg (Nat.not_lt.mpr hle), if_pos hle, (readChunks_spec limit chunks).1 hle]
  · rw [if_pos (Nat.not_le.mp hle), if_neg hle]

end Reply

/-! ### Fetching -/

/-- A file on disk is read if it is within the limit. -/
lemma Disk.fetch_file {disk : Disk} {path : String} {data : Bytes}
    (h : disk.find? path = .ok (.file data)) (limit : ℕ) :
    disk.fetch limit path =
      if data.length ≤ limit then .ok data else .error (.tooLarge data.length limit) := by
  have hsize : disk.size? path = .ok data.length := by rw [Disk.size?, h]
  have hread : disk.read? path = .ok data := by rw [Disk.read?, h]
  rw [Disk.fetch, hsize, hread]
  by_cases hle : data.length ≤ limit
  · simp only [if_neg (Nat.not_lt.mpr hle), if_pos hle]
  · simp only [if_pos (Nat.not_le.mp hle), if_neg hle]

/-- A network answers a location with a reply. -/
def Network.Answers (network : Network) (location : String) (reply : Reply) : Prop :=
  ∃ url, webUrl? location = .ok url ∧ canRequest (requestUrl url) ∧
    network.reply? (requestUrl url) = some reply

/-- What is fetched from a location is the body of the reply. -/
lemma Network.Answers.fetch_eq {network : Network} {location : String} {reply : Reply}
    (h : network.Answers location reply) (limit : ℕ) :
    network.fetch limit location = reply.body? limit := by
  obtain ⟨url, hurl, hrequest, hreply⟩ := h
  rw [Network.fetch, hurl]
  simp [hrequest, hreply]

/-- **The size limit is the same everywhere.** A body is fetched exactly if it is within the limit,
from disk, with its length said in advance, and in chunks, however it is split. One that is too
large is refused with its size, or with the size of the shortest run of leading chunks that is too
large. What is held while chunks are read is a run of leading chunks, and never more than the limit.
A reply that is no success gives its status whatever its body. -/
theorem fetch_sizeLimit (limit : ℕ) (chunks : List Bytes) :
    let body := chunks.flatten
    let whole : Except Fetch.Error Bytes :=
      if body.length ≤ limit then .ok body else .error (.tooLarge body.length limit)
    (∀ (disk : Disk) (path : String), disk.find? path = .ok (.file body) →
      disk.fetch limit path = whole) ∧
    (∀ (network : Network) (location : String),
      network.Answers location ⟨200, some body.length, chunks⟩ →
        network.fetch limit location = whole) ∧
    (∀ (network : Network) (location : String), network.Answers location (.ofChunks chunks) →
      (body.length ≤ limit → network.fetch limit location = .ok body) ∧
      (limit < body.length → ∃ run, Reply.IsOverrun limit chunks run ∧
        network.fetch limit location = .error (.tooLarge run.flatten.length limit))) ∧
    (∀ r, Reply.Reader.Reaches limit (.start chunks) r → r.Within limit chunks ∧
      r.result limit = Reply.readChunks limit [] chunks) ∧
    ∀ (network : Network) (location : String) (reply : Reply), network.Answers location reply →
      ¬ (200 ≤ reply.status ∧ reply.status < 300) →
        network.fetch limit location = .error (.badStatus reply.status) := by
  intro body whole
  refine ⟨fun disk path h => Disk.fetch_file h limit, fun network location h => ?_,
    fun network location h => ?_, fun r h => ?_, fun network location reply h hstatus => ?_⟩
  · rw [h.fetch_eq, Reply.body?_sized]
  · rw [h.fetch_eq]
    exact Reply.readChunks_spec limit chunks
  · exact ⟨(Reply.Reader.within_start limit chunks).of_reaches h, h.result_eq.symm⟩
  · rw [h.fetch_eq, Reply.body?_of_not_success hstatus]

/-- The network that answers one location with a reply. -/
def smallNetwork (reply : Reply) : Network := ⟨true, [("http://host/bundle.js", reply)]⟩

lemma answers_smallNetwork (reply : Reply) :
    (smallNetwork reply).Answers "http://user@host/bundle.js#top" reply := by
  let authority : Url.Authority := ⟨"user".toList, [], .domain "host".toList, none⟩
  let url : Url :=
    ⟨"http".toList, some authority, .segments ["bundle.js".toList], none, some "top".toList⟩
  have hrequest : { Network.requestUrl url with fragment := none }.toString =
      "http://host/bundle.js" := by decide +kernel
  refine ⟨url, by decide +kernel, by decide +kernel, ?_⟩
  simp [Network.reply?, smallNetwork, hrequest, Dictionary.get?]

/-- Eighteen bytes in three chunks, of which two are too large together for a limit of ten. -/
theorem threeChunks_tooLarge :
    let chunks : List Bytes := List.replicate 3 [0x61, 0x62, 0x63, 0x64, 0x65, 0x66]
    let disk : Disk := ⟨fun _ => .ok (.file chunks.flatten)⟩
    let location := "http://user@host/bundle.js#top"
    disk.fetch 10 "bundle.js" = .error (.tooLarge 18 10) ∧
      (smallNetwork ⟨200, some 18, chunks⟩).fetch 10 location = .error (.tooLarge 18 10) ∧
      (smallNetwork (.ofChunks chunks)).fetch 10 location = .error (.tooLarge 12 10) ∧
      (smallNetwork (.ofChunks chunks)).fetch 18 location = .ok chunks.flatten ∧
      (smallNetwork ⟨500, none, chunks⟩).fetch 10 location = .error (.badStatus 500) := by
  intro chunks disk location
  obtain ⟨hdisk, hsized, hchunked, -, hstatus⟩ := fetch_sizeLimit 10 chunks
  obtain ⟨-, -, hfits, -⟩ := fetch_sizeLimit 18 chunks
  refine ⟨hdisk disk "bundle.js" rfl, hsized _ location (answers_smallNetwork _), ?_,
    (hfits _ location (answers_smallNetwork _)).1 (by decide),
    hstatus _ location _ (answers_smallNetwork _) (by decide)⟩
  obtain ⟨run, hrun, hfetch⟩ :=
    (hchunked _ location (answers_smallNetwork _)).2 (by decide)
  have hleading : run = chunks.take run.length := List.prefix_iff_eq_take.mp hrun.leading
  have hshort : run.length ≤ 2 :=
    hrun.shortest (chunks.take 2) (List.take_prefix 2 chunks) (by decide)
  have hlong : 2 ≤ run.length := by
    by_contra hlt
    have hexceeds := hrun.exceeds
    have hcases : run.length = 0 ∨ run.length = 1 := by omega
    rcases hcases with hlength | hlength <;>
      · rw [hleading, hlength] at hexceeds
        exact absurd hexceeds (by decide)
  rw [hfetch, hleading, Nat.le_antisymm hshort hlong]
  rfl

end Retrace
