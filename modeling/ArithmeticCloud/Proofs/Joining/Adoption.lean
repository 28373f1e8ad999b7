import ArithmeticCloud.Joining.Request
import ArithmeticCloud.Proofs.Transport.Lines
import ArithmeticCloud.Proofs.Wire.Grammar

/-!
Contract: which snapshot a joining node adopts from the answer to its `hello`.

Owns:
- the bytes and the words of an answer, as far as they are received;
- exactly which snapshot is adopted from an answer, of any length, and when it is not the
  one that was sent.

Does not own: answers that are lost, and datagrams from elsewhere.
-/

namespace ArithmeticCloud.Joining

open Fleet Network Text Transport Wire

/-! ## Answers -/

/-- The bytes of the answer that carries a snapshot. -/
def answerOf (snapshot : Snapshot) : Bytes := bytesOf snapshot.toDatagram.encode

/-- The words behind the keyword of an answer. -/
def answerWords (snapshot : Snapshot) : List Word :=
  snapshot.peers.map Endpoint.text ++ [ofWord64 snapshot.ceiling]

def answerLetters (snapshot : Snapshot) : List Char :=
  "init".toList ++ (answerWords snapshot).flatMap (' ' :: ·)

theorem encode_toDatagram (snapshot : Snapshot) :
    snapshot.toDatagram.encode = String.ofList (answerLetters snapshot) := by
  show Message.encode ⟨Datagram.initVariant, (snapshot.peers, snapshot.ceiling, ())⟩ = _
  unfold Message.encode
  rw [putValues_eq]
  rfl

theorem ascii_answerLetters (snapshot : Snapshot) :
    ∀ c ∈ answerLetters snapshot, c.toNat < 128 := by
  have spelled : ∀ word ∈ answerWords snapshot, Spelled word := by
    intro word member
    rcases List.mem_append.mp member with inPeers | inCeiling
    · obtain ⟨peer, -, rfl⟩ := List.mem_map.mp inPeers
      exact peer.spelled_text
    · obtain rfl := List.mem_singleton.mp inCeiling
      exact spelled_digits _
  intro c member
  rcases List.mem_append.mp member with inKeyword | inWords
  · have every : ∀ c ∈ "init".toList, c.toNat < 128 := List.all_iff_forall_prop.mp (by decide)
    exact every c inKeyword
  · obtain ⟨word, inAnswer, inWord⟩ := List.mem_flatMap.mp inWords
    rcases List.mem_cons.mp inWord with rfl | letter
    · decide
    · have small := (spelled word inAnswer).forall_mem (p := fun c => c.toNat < 128)
        (by decide) (List.all_iff_forall_prop.mp (by decide))
      exact small c letter

theorem answerOf_eq (snapshot : Snapshot) :
    answerOf snapshot = bytesOf (String.ofList (answerLetters snapshot)) :=
  congrArg bytesOf (encode_toDatagram snapshot)

theorem length_answerOf (snapshot : Snapshot) :
    (answerOf snapshot).length = (answerLetters snapshot).length := by
  rw [answerOf_eq, length_bytesOf_ofList (ascii_answerLetters snapshot)]

theorem take_answerOf (snapshot : Snapshot) (cut : Nat) :
    (answerOf snapshot).take cut = bytesOf (String.ofList ((answerLetters snapshot).take cut)) := by
  rw [answerOf_eq, take_bytesOf_ofList (ascii_answerLetters snapshot)]

theorem adopt?_eq_some_iff {bytes : Bytes} {line : String}
    (received : bytes.take datagramLimit = bytesOf line) (adopted : Snapshot) :
    adopt? bytes = some adopted ↔
      Datagram.decode? line = some (.init adopted.peers adopted.ceiling) := by
  unfold adopt? receiveDatagram?
  rw [received, text?_bytesOf, Option.bind_some, Option.bind_eq_some_iff]
  constructor
  · rintro ⟨datagram, decoded, carried⟩
    rw [decoded]
    cases datagram with
    | hello => cases carried
    | alive tcp operators => cases carried
    | init peers ceiling =>
        obtain rfl := Option.some.inj carried
        rfl
  · intro decoded
    exact ⟨_, decoded, rfl⟩

/-- A node adopts the snapshot whose answer is what it receives. -/
theorem adopt?_of_received {bytes : Bytes} {snapshot : Snapshot}
    (received : bytes.take datagramLimit = answerOf snapshot) : adopt? bytes = some snapshot := by
  rw [adopt?_eq_some_iff received]
  exact Datagram.decode?_encode_init snapshot.peers snapshot.ceiling

/-! ## Numerals at the front of a word -/

/-- The front of the digits of a number is a numeral of a quotient by a power of ten. -/
theorem isNatural_take_digits_iff {value kept number : Nat} (positive : 0 < kept)
    (within : kept ≤ (digits value).length) :
    IsNatural ((digits value).take kept) number ↔
      number = value / 10 ^ ((digits value).length - kept) := by
  have front : (digits value).take ((digits value).length - ((digits value).length - kept)) =
      digits (value / 10 ^ ((digits value).length - kept)) := dropLast_digits (by omega)
  rw [Nat.sub_sub_self within] at front
  rw [front, ← natural?_eq_some_iff, natural?_digits, Option.some.injEq]
  exact eq_comm

/-- The front of an endpoint is a numeral only within the first number of a version 4
address. -/
theorem isNatural_take_text_iff {peer : Endpoint} {kept number : Nat} (positive : 0 < kept)
    (within : kept ≤ peer.text.length) :
    IsNatural (peer.text.take kept) number ↔
      ∃ address port, peer = .v4 address port ∧ kept ≤ (digits address.first.toNat).length ∧
        number = address.first.toNat / 10 ^ ((digits address.first.toNat).length - kept) := by
  cases peer with
  | v6 address port zone =>
      rw [Endpoint.text_v6]
      constructor
      · intro isNatural
        obtain ⟨fewer, rfl⟩ := Nat.exists_eq_succ_of_ne_zero (Nat.ne_of_gt positive)
        rw [Nat.succ_eq_add_one, List.take_succ_cons] at isNatural
        exact absurd List.mem_cons_self
          (not_mem_of_isNatural isNatural (by decide : '[' ∈ marks))
      · rintro ⟨_, _, same, -⟩
        cases same
  | v4 address port =>
      obtain ⟨more, text⟩ : ∃ more, (Endpoint.v4 address port).text =
          digits address.first.toNat ++ '.' :: more := by
        simp [Endpoint.text, IPv4.text]
      rw [text]
      by_cases inside : kept ≤ (digits address.first.toNat).length
      · rw [List.take_append_of_le_length inside, isNatural_take_digits_iff positive inside]
        constructor
        · intro same
          exact ⟨address, port, rfl, inside, same⟩
        · rintro ⟨_, _, same, -, value⟩
          obtain ⟨rfl, -⟩ := Endpoint.v4.inj same
          exact value
      · constructor
        · intro isNatural
          have dot : '.' ∈ (digits address.first.toNat ++ '.' :: more).take kept := by
            obtain ⟨extra, rfl⟩ := Nat.exists_eq_add_of_lt (Nat.lt_of_not_le inside)
            rw [Nat.add_assoc, List.take_length_add_append, List.take_succ_cons]
            exact List.mem_append_right _ List.mem_cons_self
          exact absurd dot (not_mem_of_isNatural isNatural (by decide))
        · rintro ⟨_, _, same, within, -⟩
          obtain ⟨rfl, -⟩ := Endpoint.v4.inj same
          exact absurd within inside

/-! ## Answers that are cut off -/

/-- What is adopted in place of a snapshot whose answer is too long. -/
inductive Misread (sent : Snapshot) : Snapshot → Prop where
  /-- The answer ends within the ceiling, and the digits in front are taken for all. -/
  | ceiling {adopted : Snapshot} (missing : Nat) (peers : adopted.peers = sent.peers)
      (size : (answerOf sent).length = datagramLimit + missing) (positive : 0 < missing)
      (fewerThanAll : missing < (digits sent.ceiling.toNat).length)
      (value : adopted.ceiling.toNat = sent.ceiling.toNat / 10 ^ missing) : Misread sent adopted
  /-- The answer ends within the first number of a version 4 address or right behind it,
  and the digits in front are taken for the ceiling. -/
  | octet {adopted : Snapshot} (address : IPv4) (port : UInt16) (others : List Endpoint)
      (missing : Nat) (peers : sent.peers = adopted.peers ++ .v4 address port :: others)
      (size : (answerOf ⟨adopted.peers, address.first.toUInt64⟩).length = datagramLimit + missing)
      (fewerThanAll : missing < (digits address.first.toNat).length)
      (value : adopted.ceiling.toNat = address.first.toNat / 10 ^ missing) : Misread sent adopted

/-- An answer without the digits of its ceiling. -/
def answerFront (peers : List Endpoint) : List Char :=
  "init".toList ++ (peers.map Endpoint.text).flatMap (' ' :: ·) ++ [' ']

theorem length_answerFront (peers : List Endpoint) :
    (answerFront peers).length =
      "init".toList.length + ((peers.map Endpoint.text).flatMap (' ' :: ·)).length + 1 := by
  rw [answerFront, List.length_append, List.length_append, List.length_singleton]

theorem answerLetters_eq (peers : List Endpoint) (ceiling : UInt64) :
    answerLetters ⟨peers, ceiling⟩ = answerFront peers ++ digits ceiling.toNat := by
  simp [answerLetters, answerWords, answerFront, ofWord64]

theorem length_answerOf_eq (peers : List Endpoint) (ceiling : UInt64) :
    (answerOf ⟨peers, ceiling⟩).length =
      (answerFront peers).length + (digits ceiling.toNat).length := by
  rw [length_answerOf, answerLetters_eq, List.length_append]

theorem take_answerLetters {peers : List Endpoint} {ceiling smaller : UInt64} {cut missing : Nat}
    (size : (answerOf ⟨peers, ceiling⟩).length = cut + missing)
    (fewerThanAll : missing < (digits ceiling.toNat).length)
    (value : smaller.toNat = ceiling.toNat / 10 ^ missing) :
    (answerLetters ⟨peers, ceiling⟩).take cut = answerLetters ⟨peers, smaller⟩ := by
  rw [length_answerOf_eq] at size
  have position : cut =
      (answerFront peers).length + ((digits ceiling.toNat).length - missing) := by omega
  rw [answerLetters_eq, answerLetters_eq, position, List.take_length_add_append,
    dropLast_digits fewerThanAll, value]

theorem Misread.received {sent adopted : Snapshot} (misread : Misread sent adopted) :
    (answerOf sent).take datagramLimit = answerOf adopted := by
  rw [take_answerOf, answerOf_eq]
  congr 2
  cases misread with
  | ceiling missing peers size positive fewerThanAll value =>
      rcases sent with ⟨sentPeers, ceiling⟩
      rcases adopted with ⟨adoptedPeers, smaller⟩
      obtain rfl : adoptedPeers = sentPeers := peers
      exact take_answerLetters size fewerThanAll value
  | octet address port others missing peers size fewerThanAll value =>
      rcases sent with ⟨sentPeers, ceiling⟩
      rcases adopted with ⟨adoptedPeers, smaller⟩
      have same : address.first.toUInt64.toNat = address.first.toNat := UInt8.toNat_toUInt64 _
      obtain ⟨more, longer⟩ : ∃ more, answerLetters ⟨sentPeers, ceiling⟩ =
          answerLetters ⟨adoptedPeers, address.first.toUInt64⟩ ++ more := by
        rw [answerLetters_eq adoptedPeers, same]
        obtain rfl : sentPeers = adoptedPeers ++ .v4 address port :: others := peers
        simp [answerLetters, answerWords, answerFront, Endpoint.text, IPv4.text]
      have covered : datagramLimit ≤
          (answerLetters ⟨adoptedPeers, address.first.toUInt64⟩).length := by
        rw [← length_answerOf]
        exact Nat.le.intro size.symm
      rw [longer, List.take_append_of_le_length covered]
      exact take_answerLetters size (by rw [same]; exact fewerThanAll) (by rw [same]; exact value)

/-- A word behind the keyword is that of the ceiling, which is last, or of a peer. -/
theorem answerWords_split {snapshot : Snapshot} {front back : List Word} {next : Word}
    (split : answerWords snapshot = front ++ next :: back) :
    (front = snapshot.peers.map Endpoint.text ∧ next = ofWord64 snapshot.ceiling) ∨
      ∃ before peer after, snapshot.peers = before ++ peer :: after ∧
        front = before.map Endpoint.text ∧ next = peer.text := by
  rcases List.append_eq_append_iff.mp split with ⟨rest, whole, last⟩ | ⟨rest, whole, later⟩
  · left
    cases rest with
    | nil =>
        rw [List.append_nil] at whole
        obtain ⟨rfl, -⟩ := List.cons.inj last
        exact ⟨whole, rfl⟩
    | cons first others =>
        have tooLong := congrArg List.length last
        simp at tooLong
  · cases rest with
    | nil =>
        left
        rw [List.append_nil] at whole
        obtain ⟨rfl, -⟩ := List.cons.inj later
        exact ⟨whole.symm, rfl⟩
    | cons first others =>
        right
        obtain ⟨before, tail, peers, rfl, remaining⟩ := List.map_eq_append_iff.mp whole
        obtain ⟨peer, after, rfl, rfl, -⟩ := List.map_eq_cons_iff.mp remaining
        obtain ⟨rfl, -⟩ := List.cons.inj later
        exact ⟨before, peer, after, peers, rfl, rfl⟩

theorem unbroken_answerWords (snapshot : Snapshot) :
    ∀ word ∈ answerWords snapshot, Unbroken word := by
  intro word member
  rcases List.mem_append.mp member with inPeers | inCeiling
  · obtain ⟨peer, -, rfl⟩ := List.mem_map.mp inPeers
    exact peer.unbroken_text
  · obtain rfl := List.mem_singleton.mp inCeiling
    exact unbroken_digits _

/-- The words of an answer that is read tell the peers and the ceiling. -/
theorem words_of_decode?_init {line : String} {peers : List Endpoint} {ceiling : UInt64}
    (decoded : Datagram.decode? line = some (.init peers ceiling)) :
    ∃ first addresses last, words line.toList = first :: (addresses ++ [last]) ∧
      List.Forall₂ (fun word peer => Endpoint.parse? word = some peer) addresses peers ∧
      IsNatural last ceiling.toNat := by
  obtain ⟨first, others, split, -, addresses, last, rfl, reads, isNatural⟩ :=
    (Datagram.decode?_eq_some_iff line _).mp decoded
  exact ⟨first, addresses, last, words_eq_iff.mpr split, reads, isNatural⟩

theorem eq_of_forall₂_parse? {known read : List Endpoint}
    (reads : List.Forall₂ (fun word peer => Endpoint.parse? word = some peer)
      (known.map Endpoint.text) read) : read = known := by
  rw [List.forall₂_map_left_iff] at reads
  have same : List.Forall₂ Eq known read := reads.imp fun peer other read => by
    rw [Endpoint.parse?_text] at read
    exact Option.some.inj read
  exact (List.forall₂_eq_eq_eq ▸ same).symm

/-- The number is read from what is left of the word in the cut, since no whole endpoint
is a numeral. -/
theorem read_parts {known peers : List Endpoint} {left last : Word} {addresses : List Word}
    {number : Nat}
    (parts : known.map Endpoint.text ++ (if left = [] then [] else [left]) = addresses ++ [last])
    (reads : List.Forall₂ (fun word peer => Endpoint.parse? word = some peer) addresses peers)
    (isNatural : IsNatural last number) : left ≠ [] ∧ peers = known ∧ IsNatural left number := by
  split at parts
  · rw [List.append_nil] at parts
    have member : last ∈ known.map Endpoint.text := by
      rw [parts]
      exact List.mem_append_right addresses List.mem_cons_self
    obtain ⟨peer, -, rfl⟩ := List.mem_map.mp member
    have read := peer.parse?_text
    rw [Endpoint.parse?_of_isNatural isNatural] at read
    cases read
  · next nonempty =>
      obtain ⟨rfl, same⟩ := List.append_inj' parts rfl
      obtain rfl := List.singleton_inj.mp same
      exact ⟨nonempty, eq_of_forall₂_parse? reads, isNatural⟩

/-- The limit cuts a longer answer in front of a word or inside of it. -/
theorem cut_answer {sent : Snapshot} (tooLong : datagramLimit < (answerOf sent).length) :
    ∃ front next back kept, answerWords sent = front ++ next :: back ∧ kept ≤ next.length ∧
      datagramLimit = "init".toList.length + (front.flatMap (' ' :: ·)).length + kept ∧
      words ((answerLetters sent).take datagramLimit) =
        "init".toList ::
          (front ++ if next.take (kept - 1) = [] then [] else [next.take (kept - 1)]) := by
  rw [length_answerOf, answerLetters, List.length_append] at tooLong
  have keyword : "init".toList.length ≤ datagramLimit := by decide
  rcases cut_spaced_cases (answerWords sent) (datagramLimit - "init".toList.length) with
    everything | ⟨front, next, back, kept, whole, position, within⟩
  · omega
  · have limit : datagramLimit =
        "init".toList.length + ((front.flatMap (' ' :: ·)).length + kept) := by omega
    refine ⟨front, next, back, kept, whole, within, by omega, ?_⟩
    have unbroken : ∀ word ∈ front ++ [next], Unbroken word := by
      intro word member
      apply unbroken_answerWords sent
      rw [whole, List.append_cons]
      exact List.mem_append_left back member
    rw [answerLetters, limit, List.take_length_add_append, whole, take_spaced front back within]
    exact words_take_spaced (by decide) unbroken kept

theorem misread_of_adopt? {sent adopted : Snapshot}
    (tooLong : datagramLimit < (answerOf sent).length)
    (adopts : adopt? (answerOf sent) = some adopted) : Misread sent adopted := by
  rw [adopt?_eq_some_iff (take_answerOf sent datagramLimit)] at adopts
  obtain ⟨first, addresses, last, split, reads, isNatural⟩ := words_of_decode?_init adopts
  obtain ⟨front, next, back, kept, whole, within, position, cut⟩ := cut_answer tooLong
  rw [String.toList_ofList, cut] at split
  obtain ⟨-, parts⟩ := List.cons.inj split
  have begun (nonempty : next.take (kept - 1) ≠ []) : 0 < kept - 1 :=
    Nat.pos_of_ne_zero fun nothing => nonempty (by rw [nothing, List.take_zero])
  rcases answerWords_split whole with ⟨rfl, rfl⟩ | ⟨before, peer, after, peers, rfl, rfl⟩
  · obtain ⟨nonempty, same, isNatural⟩ := read_parts parts reads isNatural
    have positive := begun nonempty
    rw [ofWord64] at within isNatural
    rw [isNatural_take_digits_iff positive (by omega)] at isNatural
    have size : (answerOf sent).length = (answerFront sent.peers).length +
        (digits sent.ceiling.toNat).length := length_answerOf_eq sent.peers sent.ceiling
    rw [length_answerFront] at size
    exact .ceiling _ same (by omega) (by omega) (by omega) isNatural
  · obtain ⟨nonempty, rfl, isNatural⟩ := read_parts parts reads isNatural
    have positive := begun nonempty
    rw [isNatural_take_text_iff positive (by omega)] at isNatural
    obtain ⟨address, port, rfl, inside, value⟩ := isNatural
    have size := length_answerOf_eq adopted.peers address.first.toUInt64
    rw [length_answerFront, UInt8.toNat_toUInt64] at size
    exact .octet address port after _ peers (by omega) (by omega) value

/-- A node adopts the snapshot that was sent if the answer fits into a datagram. Of a
longer answer it ignores what arrives, or it adopts another snapshot: exactly if the
answer is cut off within the digits of the ceiling or of the first number of a version 4
address. -/
theorem adopts_iff (sent adopted : Snapshot) :
    adopt? (answerOf sent) = some adopted ↔
      ((answerOf sent).length ≤ datagramLimit ∧ adopted = sent) ∨
        (datagramLimit < (answerOf sent).length ∧ Misread sent adopted) := by
  rcases Nat.lt_or_ge datagramLimit (answerOf sent).length with tooLong | fits
  · constructor
    · intro adopts
      exact .inr ⟨tooLong, misread_of_adopt? tooLong adopts⟩
    · rintro (⟨fits, -⟩ | ⟨-, misread⟩)
      · omega
      · exact adopt?_of_received misread.received
  · have whole : adopt? (answerOf sent) = some sent :=
      adopt?_of_received (List.take_of_length_le fits)
    constructor
    · intro adopts
      rw [whole] at adopts
      exact .inl ⟨fits, (Option.some.inj adopts).symm⟩
    · rintro (⟨-, rfl⟩ | ⟨tooLong, -⟩)
      · exact whole
      · omega

/-- Nodes on one machine, at consecutive ports of three digits. -/
def neighbours (count : Nat) : List Endpoint :=
  (List.range count).map fun index => .v4 .loopback (UInt16.ofNat (100 + index))

theorem length_answerFront_neighbours {count : Nat} (few : count ≤ 900) :
    (answerFront (neighbours count)).length = 14 * count + 5 := by
  have size : ∀ peer ∈ neighbours count, (' ' :: peer.text).length = 14 := by
    intro peer member
    obtain ⟨index, inRange, rfl⟩ := List.mem_map.mp member
    have below := List.mem_range.mp inRange
    have port : (UInt16.ofNat (100 + index)).toNat = 100 + index :=
      UInt16.toNat_ofNat_of_lt' (by simp only [UInt16.size]; omega)
    have threeDigits : (digits (100 + index)).length = 3 := by
      rw [digits_of_le (by omega), digits_of_le (by omega), digits_of_lt (by omega)]
      rfl
    have host : (IPv4.text .loopback).length = 9 := by decide +kernel
    rw [Endpoint.text, ofWord16, port, List.length_cons, List.length_append, List.length_cons,
      threeDigits, host]
  have total : (((neighbours count).map Endpoint.text).flatMap (' ' :: ·)).length = 14 * count := by
    rw [List.flatMap_map, List.length_flatMap, List.map_congr_left size, List.map_const',
      List.sum_replicate_nat, neighbours, List.length_map, List.length_range, Nat.mul_comm]
  rw [length_answerFront, total]
  have keyword : "init".toList.length = 4 := by decide
  omega

/-- One byte too many costs the ceiling its last digit, and one node more makes its first
octet the ceiling. -/
theorem adopts_other_snapshots :
    (adopt? (answerOf ⟨neighbours 292, 1000⟩) = some ⟨neighbours 292, 100⟩ ∧
        (⟨neighbours 292, 100⟩ : Snapshot) ≠ ⟨neighbours 292, 1000⟩) ∧
      adopt? (answerOf ⟨neighbours 293, 1000⟩) = some ⟨neighbours 292, 127⟩ ∧
        (⟨neighbours 292, 127⟩ : Snapshot) ≠ ⟨neighbours 293, 1000⟩ := by
  have differs {left right : Snapshot} (ceilings : left.ceiling ≠ right.ceiling) :
      left ≠ right := fun same => ceilings (congrArg Snapshot.ceiling same)
  have front : (answerFront (neighbours 292)).length = 4093 :=
    length_answerFront_neighbours (by decide)
  have four : (digits 1000).length = 4 := by decide +kernel
  have three : (digits 127).length = 3 := by decide +kernel
  refine ⟨⟨adopt?_of_received (Misread.received ?_), differs (by decide)⟩,
    adopt?_of_received (Misread.received ?_), differs (by decide)⟩
  · refine .ceiling 1 rfl ?_ (by decide) ?_ (by decide)
    · rw [length_answerOf_eq, front]
      exact congrArg (4093 + ·) four
    · exact four ▸ (by decide)
  · have last : neighbours 293 = neighbours 292 ++ [.v4 .loopback 392] := by
      rw [neighbours, List.range_succ, List.map_append]
      rfl
    refine .octet .loopback 392 [] 0 last ?_ ?_ (by decide)
    · rw [length_answerOf_eq, front]
      exact congrArg (4093 + ·) three
    · exact three ▸ (by decide)

end ArithmeticCloud.Joining
