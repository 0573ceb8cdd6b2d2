import CrasAudio.Protocol

/-! Reading from `to_thread_fds` whatever the pipe holds: `read_until_finished` over every
sequence of `read()` outcomes, and `audio_thread_read_command` over every length field, with
the conversions between `size_t` and `int` it makes on the way. -/
namespace CrasAudio

/-! ## The outcomes a read loop meets -/

/-- Whether the outcomes `os` hand over `n` bytes before an end of file or a failure. -/
def reachesBeforeFailure : Nat → List ReadOutcome → Bool
  | 0, _ => true
  | _ + 1, [] => true
  | n + 1, .chunk m :: os => m != 0 && reachesBeforeFailure (n + 1 - m) os
  | n + 1, .error e :: os => e == eintr && reachesBeforeFailure (n + 1) os

section Reaches

variable {n : Nat} {os : List ReadOutcome}

@[simp] theorem reachesBeforeFailure_zero : reachesBeforeFailure 0 os = true := by
  cases os <;> rfl

@[simp] theorem reachesBeforeFailure_nil : reachesBeforeFailure n [] = true := by
  cases n <;> rfl

theorem reachesBeforeFailure_chunk (hn : 0 < n) (c : Nat) :
    reachesBeforeFailure n (.chunk c :: os) = (c != 0 && reachesBeforeFailure (n - c) os) := by
  obtain ⟨m, rfl⟩ := Nat.exists_eq_succ_of_ne_zero hn.ne'
  rfl

theorem reachesBeforeFailure_error (hn : 0 < n) (e : Int) :
    reachesBeforeFailure n (.error e :: os) = (e == eintr && reachesBeforeFailure n os) := by
  obtain ⟨m, rfl⟩ := Nat.exists_eq_succ_of_ne_zero hn.ne'
  rfl

theorem Delivers.of_suffix {os' : List ReadOutcome} (h : Delivers os) (hs : os' <:+ os) :
    Delivers os' :=
  fun o ho => h o (hs.subset ho)

theorem reachesBeforeFailure_of_delivers (hs : Delivers os) (n : Nat) :
    reachesBeforeFailure n os = true := by
  induction os generalizing n with
  | nil => exact reachesBeforeFailure_nil
  | cons o os ih =>
    have ho := hs o (List.mem_cons_self _ _)
    have hos := hs.of_suffix (List.suffix_cons o os)
    rcases Nat.eq_zero_or_pos n with rfl | hn
    · exact reachesBeforeFailure_zero
    cases o with
    | chunk c =>
      rw [reachesBeforeFailure_chunk hn, ih hos]
      simpa [ReadOutcome.delivers] using ho
    | error e =>
      rw [reachesBeforeFailure_error hn, ih hos]
      simpa [ReadOutcome.delivers] using ho

end Reaches

theorem drop_drop_eq_drop_length_take {α : Type} (l : List α) (a b : Nat) :
    (l.drop a).drop b = l.drop ((l.take a).length + b) := by
  rw [List.drop_drop, List.length_take]
  rcases le_total a l.length with h | h
  · rw [Nat.min_eq_left h]
  · rw [Nat.min_eq_right h, List.drop_eq_nil_of_le (by omega), List.drop_eq_nil_of_le (by omega)]

theorem take_append_take_drop {α : Type} (l : List α) (a b : Nat) :
    l.take a ++ (l.drop a).take b = l.take ((l.take a).length + b) := by
  rcases le_total a l.length with h | h
  · rw [List.length_take, Nat.min_eq_left h, List.take_add]
  · rw [List.take_of_length_le h, List.drop_eq_nil_of_le h, List.take_nil, List.append_nil,
      List.take_of_length_le (by omega)]

@[simp] theorem Pipe.read_empty (k : Nat) : (⟨[], []⟩ : Pipe).read k = (.ok [], ⟨[], []⟩) := by
  simp [Pipe.read]

/-! ## `read_until_finished` over every sequence of outcomes -/

/-- How the loop of `read_until_finished` ends with `n` bytes wanted: a prefix of the pipe read,
and `count` exactly when the outcomes reach `n`, otherwise -1 or `-EPIPE`. -/
def LoopOutcome (count base n : Nat) (data : List UInt8) (sched : List ReadOutcome)
    (buf : Nat → UInt8) : Prop :=
  ∃ k ≤ n, ∃ rc sched', sched' <:+ sched ∧
    readUntilFinishedLoop count base n ⟨data, sched⟩ buf =
      (rc, ⟨data.drop k, sched'⟩, writeBytes buf (base + (count - n : Int).toNat) (data.take k)) ∧
    (n ≤ data.length ∧ reachesBeforeFailure n sched = true → k = n ∧ rc = int32 count) ∧
    (¬(n ≤ data.length ∧ reachesBeforeFailure n sched = true) →
      k < n ∧ (rc = -1 ∨ rc = -epipe) ∧ (Delivers sched → k = data.length ∧ rc = -epipe))

namespace LoopOutcome

variable {count base n : Nat} {data : List UInt8} {sched : List ReadOutcome}
  {buf : Nat → UInt8}

theorem zero : LoopOutcome count base 0 data sched buf :=
  ⟨0, le_rfl, int32 count, sched, List.suffix_refl _,
    by rw [readUntilFinishedLoop_done (by simp)]; simp [writeBytes],
    fun _ => ⟨rfl, rfl⟩, fun h => absurd ⟨Nat.zero_le _, reachesBeforeFailure_zero⟩ h⟩

/-- A read that ends the loop at once, on an end of file or a failure. -/
theorem stop {rc : Int} {s : List ReadOutcome} (hn : 0 < n)
    (h : readUntilFinishedLoop count base n ⟨data, sched⟩ buf = (rc, ⟨data, s⟩, buf))
    (hs : s <:+ sched) (hrc : rc = -1 ∨ rc = -epipe)
    (hc : ¬(n ≤ data.length ∧ reachesBeforeFailure n sched = true))
    (hd : Delivers sched → data = [] ∧ rc = -epipe) : LoopOutcome count base n data sched buf :=
  ⟨0, Nat.zero_le _, rc, s, hs, by simpa [writeBytes] using h, fun h' => absurd h' hc,
    fun _ => ⟨hn, hrc, fun hds => by obtain ⟨rfl, hrc'⟩ := hd hds; exact ⟨rfl, hrc'⟩⟩⟩

/-- A read that hands over the first `a` bytes of the pipe; the loop goes on with the rest. -/
theorem read {a : Nat} {s : List ReadOutcome} (hn : 0 < n) (hcount : (n : Int) ≤ count)
    (hread : (⟨data, sched⟩ : Pipe).read n = (.ok (data.take a), ⟨data.drop a, s⟩))
    (hb : data.take a ≠ []) (ha : a ≤ n) (hs : s <:+ sched)
    (hcond : (n ≤ data.length ∧ reachesBeforeFailure n sched = true) ↔
      (n - (data.take a).length ≤ (data.drop a).length ∧
        reachesBeforeFailure (n - (data.take a).length) s = true))
    (hdel : Delivers sched → Delivers s)
    (ih : LoopOutcome count base (n - (data.take a).length) (data.drop a) s
      (writeBytes buf (base + (count - n : Int).toNat) (data.take a))) :
    LoopOutcome count base n data sched buf := by
  obtain ⟨k, hk, rc, s', hs', heq, hsucc, hfail⟩ := ih
  have hj : (data.take a).length ≤ n := by rw [List.length_take]; omega
  have hj0 : 0 < (data.take a).length := List.length_pos.mpr hb
  have hleft : (n : Int) - ((data.take a).length : Int) = ((n - (data.take a).length : Nat) : Int) := by
    omega
  have hoff : base + ((count : Int) - ((n - (data.take a).length : Nat) : Int)).toNat =
      base + ((count : Int) - n).toNat + (data.take a).length := by
    omega
  refine ⟨(data.take a).length + k, by omega, rc, s', hs'.trans hs, ?_, ?_, ?_⟩
  · rw [readUntilFinishedLoop_bytes (by omega) (by rwa [Int.toNat_ofNat]) hb, hleft, heq, hoff,
      ← writeBytes_append, take_append_take_drop, drop_drop_eq_drop_length_take]
  · intro hc
    obtain ⟨hk', hrc'⟩ := hsucc (hcond.mp hc)
    exact ⟨by omega, hrc'⟩
  · intro hc
    obtain ⟨hlt, hrc, hd⟩ := hfail (mt hcond.mpr hc)
    refine ⟨by omega, hrc, fun hds => ?_⟩
    obtain ⟨hk, hrc⟩ := hd (hdel hds)
    refine ⟨?_, hrc⟩
    rw [hk, List.length_drop, List.length_take]
    omega

/-- A read interrupted by a signal, which the loop retries. -/
theorem retry (hn : 0 < n) (h : LoopOutcome count base n data sched buf) :
    LoopOutcome count base n data (.error eintr :: sched) buf := by
  obtain ⟨k, hk, rc, s', hs', heq, hsucc, hfail⟩ := h
  have hreach : reachesBeforeFailure n (.error CrasAudio.eintr :: sched) =
      reachesBeforeFailure n sched := by
    rw [reachesBeforeFailure_error hn, beq_self_eq_true, Bool.true_and]
  have hread : (⟨data, .error CrasAudio.eintr :: sched⟩ : Pipe).read (n : Int).toNat =
      (.error CrasAudio.eintr, ⟨data, sched⟩) := rfl
  refine ⟨k, hk, rc, s', hs'.trans (List.suffix_cons _ _), ?_, ?_, ?_⟩
  · rw [readUntilFinishedLoop_eintr (by omega) hread, heq]
  · rw [hreach]; exact hsucc
  · rw [hreach]
    exact fun hc => ⟨(hfail hc).1, (hfail hc).2.1,
      fun hds => (hfail hc).2.2 (hds.of_suffix (List.suffix_cons _ _))⟩

end LoopOutcome

/-- Every run of the loop ends as `LoopOutcome` says. -/
theorem loopOutcome (count base : Nat) (sched : List ReadOutcome) :
    ∀ (n : Nat) (data : List UInt8) (buf : Nat → UInt8), (n : Int) ≤ count →
      LoopOutcome count base n data sched buf := by
  induction sched with
  | nil =>
    intro n data buf hn
    rcases Nat.eq_zero_or_pos n with rfl | hpos
    · exact LoopOutcome.zero
    rcases eq_or_ne (data.take n) [] with hb | hb
    · obtain rfl : data = [] := (List.take_eq_nil_iff.mp hb).resolve_left (by omega)
      exact LoopOutcome.stop hpos (readUntilFinishedLoop_eof (by omega) (by simp))
        (List.suffix_refl _) (Or.inr rfl) (by simp; omega) (fun _ => ⟨rfl, rfl⟩)
    refine LoopOutcome.read hpos hn (by simp [Pipe.read]) hb le_rfl (List.suffix_refl _)
      (by simp only [reachesBeforeFailure_nil, and_true, List.length_take, List.length_drop]; omega)
      id ?_
    rcases le_or_lt n data.length with hle | hlt
    · rw [show n - (data.take n).length = 0 by simp; omega]
      exact LoopOutcome.zero
    · have hleft : 0 < n - (data.take n).length := by simp; omega
      rw [List.drop_eq_nil_of_le hlt.le]
      exact LoopOutcome.stop hleft (readUntilFinishedLoop_eof (by omega) (Pipe.read_empty _))
        (List.suffix_refl _) (Or.inr rfl) (by simp; omega) (fun _ => ⟨rfl, rfl⟩)
  | cons o sched ih =>
    intro n data buf hn
    rcases Nat.eq_zero_or_pos n with rfl | hpos
    · exact LoopOutcome.zero
    cases o with
    | error e =>
      by_cases he : e = eintr
      · subst he
        exact (ih n data buf hn).retry hpos
      · refine LoopOutcome.stop hpos (readUntilFinishedLoop_error (by omega) rfl he)
          (List.suffix_cons _ _) (Or.inl rfl) ?_ fun hds => ?_
        · simp [reachesBeforeFailure_error hpos, he]
        · simpa [ReadOutcome.delivers, he] using hds _ (List.mem_cons_self _ _)
    | chunk c =>
      rcases eq_or_ne (data.take (min c n)) [] with hb | hb
      · have hcd : c = 0 ∨ data = [] := by
          rcases List.take_eq_nil_iff.mp hb with h | h
          · exact Or.inl (by omega)
          · exact Or.inr h
        have hdrop : data.drop (min c n) = data := by
          rcases hcd with rfl | rfl <;> simp
        refine LoopOutcome.stop hpos (readUntilFinishedLoop_eof (by omega)
          (by simp only [Int.toNat_ofNat, Pipe.read, hb, hdrop])) (List.suffix_cons _ _)
          (Or.inr rfl) ?_ fun hds => ⟨?_, rfl⟩
        · rw [reachesBeforeFailure_chunk hpos]
          rcases hcd with rfl | rfl
          · simp
          · simp; omega
        · have hc : c ≠ 0 := by simpa [ReadOutcome.delivers] using hds _ (List.mem_cons_self _ _)
          exact hcd.resolve_left hc
      · have hc0 : c ≠ 0 ∧ data ≠ [] := by
          simpa [List.take_eq_nil_iff, Nat.min_eq_zero_iff, hpos.ne'] using hb
        refine LoopOutcome.read hpos hn rfl hb (min_le_right _ _) (List.suffix_cons _ _) ?_
          (fun hds => hds.of_suffix (List.suffix_cons _ _)) (ih _ _ _ (by omega))
        have hcb : (c != 0) = true := by simpa using hc0.1
        rw [reachesBeforeFailure_chunk hpos, hcb, Bool.true_and]
        simp only [List.length_take, List.length_drop]
        constructor
        · rintro ⟨hle, hr⟩
          have hn' : n - min (min c n) data.length = n - c := by omega
          exact ⟨by omega, hn' ▸ hr⟩
        · rintro ⟨hle, hr⟩
          have hnl : n ≤ data.length := by omega
          have hn' : n - min (min c n) data.length = n - c := by omega
          exact ⟨hnl, hn' ▸ hr⟩

/-- `read_until_finished` of `count ≤ INT_MAX` bytes reads a prefix of the stream into `buf`,
returning `count` exactly when the chunks reach it before a failure, else -1 or `-EPIPE`. -/
theorem read_until_finished_outcome (count : Nat) (hc : count ≤ 2147483647) (data : List UInt8)
    (hd : count ≤ data.length) (sched : List ReadOutcome) (base : Nat) (buf : Nat → UInt8) :
    ∃ k ≤ count, ∃ rc sched',
      readUntilFinished ⟨data, sched⟩ buf base count =
        (rc, ⟨data.drop k, sched'⟩, writeBytes buf base (data.take k)) ∧
      (rc = count ↔ reachesBeforeFailure count sched = true) ∧
      (reachesBeforeFailure count sched = true → k = count) ∧
      (reachesBeforeFailure count sched = false → rc = -1 ∨ rc = -epipe) := by
  have h32 : int32 count = count := int32_of_lt (by omega) (by omega)
  obtain ⟨k, hk, rc, s', -, heq, hsucc, hfail⟩ := loopOutcome count base sched count data buf le_rfl
  refine ⟨k, hk, rc, s', ?_, ⟨fun hrc => ?_, fun hr => ?_⟩, fun hr => (hsucc ⟨hd, hr⟩).1,
    fun hr => (hfail (by simp [hr])).2.1⟩
  · rw [readUntilFinished, h32, heq, sub_self, Int.toNat_zero, Nat.add_zero]
  · by_contra hr
    have hep : epipe = 32 := rfl
    rcases (hfail (by simp [hr])).2.1 with rfl | rfl <;> omega
  · rw [(hsucc ⟨hd, hr⟩).2, h32]

/-- Three bytes wanted from a stream of five: a chunk of 2, an `EINTR`, then an end of file. -/
theorem read_until_finished_eof_after_two :
    3 ≤ 2147483647 ∧ 3 ≤ [1, 2, 3, 4, 5].length ∧
      ∃ k ≤ 3, ∃ rc sched',
        readUntilFinished ⟨[1, 2, 3, 4, 5], [.chunk 2, .error eintr, .chunk 0]⟩ (fun _ => 0) 0 3 =
          (rc, ⟨([1, 2, 3, 4, 5] : List UInt8).drop k, sched'⟩,
            writeBytes (fun _ => 0) 0 (([1, 2, 3, 4, 5] : List UInt8).take k)) ∧
        (rc = (3 : Nat) ↔ reachesBeforeFailure 3 [.chunk 2, .error eintr, .chunk 0] = true) ∧
        (reachesBeforeFailure 3 [.chunk 2, .error eintr, .chunk 0] = true → k = 3) ∧
        (reachesBeforeFailure 3 [.chunk 2, .error eintr, .chunk 0] = false →
          rc = -1 ∨ rc = -epipe) :=
  ⟨by decide, by decide,
    read_until_finished_outcome 3 (by decide) [1, 2, 3, 4, 5] (by decide) _ 0 (fun _ => 0)⟩

theorem readUntilFinished_delivers (data : List UInt8) {sched : List ReadOutcome}
    (hs : Delivers sched) (buf : Nat → UInt8) (base : Nat) {count : Nat}
    (hc : count < 2147483648) :
    ∃ sched', Delivers sched' ∧ readUntilFinished ⟨data, sched⟩ buf base count =
      if count ≤ data.length then
        ((count : Int), ⟨data.drop count, sched'⟩, writeBytes buf base (data.take count))
      else (-epipe, ⟨[], sched'⟩, writeBytes buf base data) := by
  have h32 : int32 count = count := int32_of_lt (by omega) (by omega)
  obtain ⟨k, -, rc, s', hs', heq, hsucc, hfail⟩ := loopOutcome count base sched count data buf le_rfl
  have heq' : readUntilFinished ⟨data, sched⟩ buf base count =
      (rc, ⟨data.drop k, s'⟩, writeBytes buf base (data.take k)) := by
    rw [readUntilFinished, h32, heq, sub_self, Int.toNat_zero, Nat.add_zero]
  refine ⟨s', hs.of_suffix hs', ?_⟩
  rw [heq']
  split_ifs with hle
  · obtain ⟨hk, hrc⟩ := hsucc ⟨hle, reachesBeforeFailure_of_delivers hs _⟩
    rw [hk, hrc, h32]
  · obtain ⟨hk, hrc⟩ := (hfail (fun h => hle h.1)).2.2 hs
    rw [hk, hrc, List.drop_length, List.take_length]

theorem readUntilFinished_skip (p : Pipe) (buf : Nat → UInt8) (base : Nat) {count : Nat}
    (h : int32 count ≤ 0) : readUntilFinished p buf base count = (int32 count, p, buf) :=
  readUntilFinishedLoop_done h

/-- `read_until_finished` returns `count` after reading it all, or a negative code. -/
theorem readUntilFinished_cases (p : Pipe) (buf : Nat → UInt8) (base : Nat) {count : Nat}
    (hc : count < 2147483648) :
    ∃ k ≤ count, ∃ rc sched', readUntilFinished p buf base count =
        (rc, ⟨p.data.drop k, sched'⟩, writeBytes buf base (p.data.take k)) ∧
      (rc = count ∧ k = count ∧ count ≤ p.data.length ∨ rc < 0) := by
  have h32 : int32 count = count := int32_of_lt (by omega) (by omega)
  obtain ⟨k, hk, rc, s', -, heq, hsucc, hfail⟩ :=
    loopOutcome count base p.sched count p.data buf le_rfl
  refine ⟨k, hk, rc, s', by rw [readUntilFinished, h32, heq, sub_self, Int.toNat_zero,
    Nat.add_zero], ?_⟩
  by_cases hcond : count ≤ p.data.length ∧ reachesBeforeFailure count p.sched = true
  · obtain ⟨hk, hrc⟩ := hsucc hcond
    exact Or.inl ⟨hrc.trans h32, hk, hcond.1⟩
  · have hep : epipe = 32 := rfl
    rcases (hfail hcond).2.1 with rfl | rfl <;> exact Or.inr (by omega)

/-! ## `audio_thread_read_command` over every length field -/

theorem int32_le_self {n : Int} (h : 0 ≤ n) : int32 n ≤ n := by
  unfold int32
  omega

theorem int32_emod_size (n : Int) : int32 (n % 18446744073709551616) = int32 n := by
  unfold int32
  omega

/-- The `size_t` and `int` conversions of `msg->length - 8` give `int32 (length - 8)`. -/
theorem toRead_count (length : Nat) :
    int32 (((int32 (((length : Int) - 8) % 18446744073709551616)) %
        18446744073709551616).toNat : Nat) = int32 ((length : Int) - 8) ∧
    (0 < int32 ((length : Int) - 8) →
      (((int32 (((length : Int) - 8) % 18446744073709551616)) %
        18446744073709551616).toNat : Int) = int32 ((length : Int) - 8)) := by
  rw [int32_emod_size]
  have h0 := int32_ge ((length : Int) - 8)
  have h1 := int32_lt ((length : Int) - 8)
  have hnn := Int.emod_nonneg (int32 ((length : Int) - 8))
    (by decide : (18446744073709551616 : Int) ≠ 0)
  refine ⟨?_, fun hpos => ?_⟩
  · rw [Int.toNat_of_nonneg hnn, int32_emod_size, int32_of_lt h0 h1]
  · rw [Int.toNat_of_nonneg hnn, Int.emod_eq_of_lt (by omega) (by omega)]

/-- For every pipe: the read stores a prefix of the stream at `buf[0]`, of at most
`max(max_len, 8)` bytes, and returns 0 with a length field of at most `max_len`, or fails. -/
theorem read_command_stores_within_max_len (p : Pipe) (buf : Nat → UInt8) (maxLen : Nat) :
    ∃ bs, bs <+: p.data ∧ bs.length ≤ max maxLen 8 ∧
      (audioThreadReadCommand p buf maxLen).2.2 = writeBytes buf 0 bs ∧
      ((audioThreadReadCommand p buf maxLen).1 = 0 ∧ 8 ≤ bs.length ∧
          leValue (bs.take 8) ≤ maxLen ∨
        (audioThreadReadCommand p buf maxLen).1 < 0) := by
  obtain ⟨k₁, hk₁, rc₁, s₁, h₁, hc₁⟩ := @readUntilFinished_cases p buf 0 8 (by decide)
  unfold audioThreadReadCommand
  rw [h₁]
  dsimp only
  rcases hc₁ with ⟨rfl, rfl, hlen⟩ | hneg
  swap
  · rw [if_pos hneg]
    exact ⟨p.data.take k₁, List.take_prefix _ _, by simp; omega, rfl, Or.inr hneg⟩
  have hhdr : (List.range 8).map (writeBytes buf 0 (p.data.take 8)) = p.data.take 8 := by
    have h := map_range_writeBytes buf (p.data.take 8)
    rwa [List.length_take, Nat.min_eq_left hlen] at h
  have hlen8 : (p.data.take 8).length = 8 := by simp; omega
  rw [if_neg (by decide), hhdr]
  generalize hL : leValue (p.data.take 8) = L
  by_cases hgt : L > maxLen
  · rw [if_pos hgt]
    exact ⟨p.data.take 8, List.take_prefix _ _, by omega, rfl,
      Or.inr (by show -enomem < 0; decide)⟩
  rw [if_neg hgt]
  obtain ⟨hc₂, hpos⟩ := toRead_count L
  generalize ((int32 (((L : Int) - 8) % 18446744073709551616)) % 18446744073709551616).toNat = c₂
    at hc₂ hpos ⊢
  rcases le_or_lt (int32 ((L : Int) - 8)) 0 with hle | hgt0
  · rw [readUntilFinished_skip _ _ _ (by rw [hc₂]; exact hle), hc₂]
    dsimp only
    split_ifs with hneg
    · exact ⟨p.data.take 8, List.take_prefix _ _, by omega, rfl, Or.inr hneg⟩
    · exact ⟨p.data.take 8, List.take_prefix _ _, by omega, rfl,
        Or.inl ⟨rfl, by omega, by rw [List.take_take, Nat.min_self, hL]; omega⟩⟩
  · have hc₂' := hpos hgt0
    have hL8 : 8 ≤ L := by
      by_contra h
      rw [int32_of_lt (by omega) (by omega)] at hgt0
      omega
    have hbound : (c₂ : Int) ≤ (L : Int) - 8 := hc₂' ▸ int32_le_self (by omega)
    obtain ⟨k₂, hk₂, rc₂, s₂, h₂, hr₂⟩ :=
      @readUntilFinished_cases ⟨p.data.drop 8, s₁⟩ (writeBytes buf 0 (p.data.take 8)) 8 c₂
        (by have := int32_lt ((L : Int) - 8); omega)
    have hbs : writeBytes (writeBytes buf 0 (p.data.take 8)) 8 ((p.data.drop 8).take k₂) =
        writeBytes buf 0 (p.data.take (8 + k₂)) := by
      rw [List.take_add, writeBytes_append, hlen8, Nat.zero_add]
    rw [h₂]
    dsimp only
    split_ifs with hneg
    · exact ⟨p.data.take (8 + k₂), List.take_prefix _ _, by simp; omega, hbs, Or.inr hneg⟩
    · obtain ⟨-, rfl, hle₂⟩ := hr₂.resolve_right hneg
      refine ⟨p.data.take (8 + k₂), List.take_prefix _ _, by simp; omega, hbs,
        Or.inl ⟨rfl, by simp at hle₂ ⊢; omega, ?_⟩⟩
      rw [List.take_take, Nat.min_eq_left (by omega), hL]
      omega

/-- One frame with length field `L`: `-ENOMEM` past `max_len` and `L - 8` below 8, after the
length field only; otherwise 0 after the whole frame, or `-EPIPE`. -/
theorem audioThreadReadCommand_frame (L : Nat) (hL : L < 18446744073709551616)
    (rest : List UInt8) {sched : List ReadOutcome} (hs : Delivers sched) (buf : Nat → UInt8)
    {maxLen : Nat} (hmax : maxLen < 2147483648) :
    ∃ sched', Delivers sched' ∧ audioThreadReadCommand ⟨leBytes L 8 ++ rest, sched⟩ buf maxLen =
      if maxLen < L then (-enomem, ⟨rest, sched'⟩, writeBytes buf 0 (leBytes L 8))
      else if L < 8 then ((L : Int) - 8, ⟨rest, sched'⟩, writeBytes buf 0 (leBytes L 8))
      else if L - 8 ≤ rest.length then
        (0, ⟨rest.drop (L - 8), sched'⟩, writeBytes buf 0 (leBytes L 8 ++ rest.take (L - 8)))
      else (-epipe, ⟨[], sched'⟩, writeBytes buf 0 (leBytes L 8 ++ rest)) := by
  obtain ⟨s₁, hs₁, h₁⟩ := readUntilFinished_delivers (leBytes L 8 ++ rest) hs buf 0
    (show 8 < 2147483648 by decide)
  rw [if_pos (by simp), List.drop_left' (length_leBytes L 8),
    List.take_left' (length_leBytes L 8)] at h₁
  have hfield : leValue ((List.range 8).map (writeBytes buf 0 (leBytes L 8))) = L := by
    have h := map_range_writeBytes buf (leBytes L 8)
    rw [length_leBytes] at h
    rw [h, leValue_leBytes]
    omega
  unfold audioThreadReadCommand
  rw [h₁]
  dsimp only
  rw [if_neg (by decide), hfield]
  by_cases hgt : maxLen < L
  · exact ⟨s₁, hs₁, by simp only [if_pos hgt]⟩
  simp only [if_neg hgt]
  by_cases h8 : L < 8
  · obtain ⟨hc₂, -⟩ := toRead_count L
    have hneg : int32 ((L : Int) - 8) = (L : Int) - 8 := int32_of_lt (by omega) (by omega)
    rw [readUntilFinished_skip _ _ _ (by rw [hc₂, hneg]; omega), hc₂, hneg]
    exact ⟨s₁, hs₁, by simp only [if_pos h8, if_pos (show (L : Int) - 8 < 0 by omega)]⟩
  have hc₂ : ((int32 (((L : Int) - 8) % 18446744073709551616)) % 18446744073709551616).toNat =
      L - 8 := by
    have h1 : ((L : Int) - 8) % 18446744073709551616 = (L : Int) - 8 :=
      Int.emod_eq_of_lt (by omega) (by omega)
    rw [h1, int32_of_lt (by omega) (by omega), Int.emod_eq_of_lt (by omega) (by omega)]
    omega
  obtain ⟨s₂, hs₂, h₂⟩ := readUntilFinished_delivers rest hs₁ (writeBytes buf 0 (leBytes L 8)) 8
    (show L - 8 < 2147483648 by omega)
  rw [hc₂, h₂]
  refine ⟨s₂, hs₂, ?_⟩
  simp only [if_neg h8]
  by_cases hr : L - 8 ≤ rest.length
  · simp only [if_pos hr]
    rw [if_neg (by omega), writeBytes_append, length_leBytes, Nat.zero_add]
  · simp only [if_neg hr]
    rw [if_pos (by decide), writeBytes_append, length_leBytes, Nat.zero_add]

/-- For every length field and delivery: `-ENOMEM` past `max_len` and `L - 8` below 8, after only
the length field; else 0 after the frame, or `-EPIPE`. A refused frame gets no reply. -/
theorem read_command_result_by_length (L : Nat) (hL : L < 18446744073709551616)
    (rest : List UInt8) (sched : List ReadOutcome) (hs : Delivers sched) (buf : Nat → UInt8)
    (maxLen : Nat) (hmax : maxLen < 2147483648) :
    (∃ sched', Delivers sched' ∧ audioThreadReadCommand ⟨leBytes L 8 ++ rest, sched⟩ buf maxLen =
      if maxLen < L then (-enomem, ⟨rest, sched'⟩, writeBytes buf 0 (leBytes L 8))
      else if L < 8 then ((L : Int) - 8, ⟨rest, sched'⟩, writeBytes buf 0 (leBytes L 8))
      else if L - 8 ≤ rest.length then
        (0, ⟨rest.drop (L - 8), sched'⟩, writeBytes buf 0 (leBytes L 8 ++ rest.take (L - 8)))
      else (-epipe, ⟨[], sched'⟩, writeBytes buf 0 (leBytes L 8 ++ rest))) ∧
    (256 < L ∨ L < 8 → ∀ (s : System) (env : Env) (heap : Heap), s.toThread = leBytes L 8 ++ rest →
      s.workerHandle env heap sched buf = { s with toThread := rest }) := by
  refine ⟨audioThreadReadCommand_frame L hL rest hs buf hmax, fun hrej s env heap ht => ?_⟩
  obtain ⟨s', -, h⟩ := audioThreadReadCommand_frame L hL rest hs buf
    (show 256 < 2147483648 by decide)
  unfold System.workerHandle
  rw [ht, h]
  rcases hrej with hgt | hlt
  · rw [if_pos hgt]
    rfl
  · rw [if_neg (show ¬256 < L by omega), if_pos hlt]
    dsimp only
    rw [if_pos (show (L : Int) - 8 < 0 by omega)]

/-- A 300-byte frame, with nothing after its length field yet, read into a 256-byte buffer. -/
theorem read_command_result_for_long_frame :
    300 < 18446744073709551616 ∧ Delivers [] ∧ 256 < 2147483648 ∧
    ((∃ sched', Delivers sched' ∧ audioThreadReadCommand ⟨leBytes 300 8 ++ [], []⟩ (fun _ => 0) 256 =
      if 256 < 300 then (-enomem, ⟨[], sched'⟩, writeBytes (fun _ => 0) 0 (leBytes 300 8))
      else if 300 < 8 then (((300 : Nat) : Int) - 8, ⟨[], sched'⟩, writeBytes (fun _ => 0) 0 (leBytes 300 8))
      else if 300 - 8 ≤ ([] : List UInt8).length then
        (0, ⟨([] : List UInt8).drop (300 - 8), sched'⟩,
          writeBytes (fun _ => 0) 0 (leBytes 300 8 ++ ([] : List UInt8).take (300 - 8)))
      else (-epipe, ⟨[], sched'⟩, writeBytes (fun _ => 0) 0 (leBytes 300 8 ++ []))) ∧
    (256 < 300 ∨ 300 < 8 → ∀ (s : System) (env : Env) (heap : Heap),
      s.toThread = leBytes 300 8 ++ [] →
        s.workerHandle env heap [] (fun _ => 0) = { s with toThread := [] })) :=
  ⟨by decide, by decide, by decide,
    read_command_result_by_length 300 (by decide) [] [] (by decide) (fun _ => 0) 256 (by decide)⟩

theorem delivers_nil : Delivers [] := fun _ h => absurd h (List.not_mem_nil _)

/-- A bare length field of 8 is a whole command; a 300-byte frame is refused, unanswered. -/
theorem read_command_short_and_long_frames :
    (audioThreadReadCommand ⟨leBytes 8 8, []⟩ (fun _ => 0) 256).1 = 0 ∧
    (audioThreadReadCommand ⟨leBytes 300 8 ++ List.replicate 292 0, []⟩ (fun _ => 0) 256).1 =
      -enomem ∧
    (audioThreadReadCommand ⟨leBytes 300 8 ++ List.replicate 292 0, []⟩ (fun _ => 0) 256).2.1.data =
      List.replicate 292 0 ∧
    (System.workerHandle Env.nominal System.Heap.uniform [] (fun _ => 0)
      { System.init with toThread := leBytes 300 8 ++ List.replicate 292 0 }).toMain = [] := by
  obtain ⟨_, -, h8⟩ := audioThreadReadCommand_frame 8 (by decide) [] delivers_nil (fun _ => 0)
    (show 256 < 2147483648 by decide)
  obtain ⟨_, -, h300⟩ := audioThreadReadCommand_frame 300 (by decide) (List.replicate 292 0)
    delivers_nil (fun _ => 0) (show 256 < 2147483648 by decide)
  rw [List.append_nil] at h8
  refine ⟨by rw [h8]; rfl, by rw [h300]; rfl, by rw [h300]; rfl, ?_⟩
  unfold System.workerHandle
  dsimp only
  rw [h300]
  rfl

end CrasAudio
