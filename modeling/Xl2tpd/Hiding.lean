import Xl2tpd.Runs

/-!
# Hiding an AVP and uncovering it

The sender works on whole segments, the receiver octet by octet with a copy of the segment it is
in, and both move the header over itself. The cipher text is the same on both sides and so are the
digests taken from it.
-/

namespace Xl2tpd

set_option autoImplicit false

/-! ## Segments -/

theorem xor_bytes_length (first second : Bytes) (enough : first.length ≤ second.length) :
    (xorBytes first second).length = first.length := by
  simp only [xorBytes, List.length_map, List.length_zip]
  omega

theorem xor_bytes_involutive (first second : Bytes) (enough : first.length ≤ second.length) :
    xorBytes (xorBytes first second) second = first := by
  induction first generalizing second with
  | nil => rfl
  | cons octet rest induction =>
    cases second with
    | nil => simp at enough
    | cons key keys =>
      have tail := induction keys (by simpa using enough)
      simp only [xorBytes, List.zip_cons_cons, List.map_cons] at tail ⊢
      rw [tail, UInt8.xor_assoc, UInt8.xor_self, UInt8.xor_zero]

theorem encrypt_segments_length (env : Env) (secret : Bytes) (blocks : Nat) (digest plain : Bytes)
    (wide : digest.length = mdSigSize) (whole : plain.length = blocks * mdSigSize) :
    (encryptSegments env secret blocks digest plain).length = plain.length := by
  induction blocks generalizing digest plain with
  | zero => rfl
  | succ blocks induction =>
    have rest : (plain.drop mdSigSize).length = blocks * mdSigSize := by
      rw [List.length_drop, whole]
      simp only [mdSigSize]
      omega
    have first : (plain.take mdSigSize).length ≤ digest.length := by
      rw [wide]
      exact List.length_take_le _ _
    simp only [encryptSegments, List.length_append]
    rw [induction _ _ (by simp [mdSigSize]) rest, xor_bytes_length _ _ first]
    rw [← List.length_append, List.take_append_drop]

theorem decrypt_segments_step (env : Env) (secret : Bytes) (fuel : Nat) (digest cipher : Bytes)
    (some : cipher ≠ []) :
    decryptSegments env secret (fuel + 1) digest cipher =
      xorBytes (cipher.take mdSigSize) digest ++
        decryptSegments env secret fuel (List.ofFn (env.md5 (secret ++ cipher.take mdSigSize)))
          (cipher.drop mdSigSize) := by
  simp only [decryptSegments, if_neg some]

/-- Segment by segment: the next digest is taken from the same cipher text on both sides. -/
theorem decrypt_encrypt_segments (env : Env) (secret : Bytes) (fuel blocks : Nat)
    (digest plain : Bytes) (enough : blocks ≤ fuel) (wide : digest.length = mdSigSize)
    (whole : plain.length = blocks * mdSigSize) :
    decryptSegments env secret fuel digest (encryptSegments env secret blocks digest plain) =
      plain := by
  induction blocks generalizing fuel digest plain with
  | zero =>
    have none : plain = [] := by simpa using whole
    subst none
    cases fuel <;> simp [encryptSegments, decryptSegments]
  | succ blocks induction =>
    cases fuel with
    | zero => omega
    | succ fuel =>
      have rest : (plain.drop mdSigSize).length = blocks * mdSigSize := by
        rw [List.length_drop, whole]
        simp only [mdSigSize]
        omega
      have first : (plain.take mdSigSize).length = mdSigSize := by
        rw [List.length_take, whole]
        simp only [mdSigSize]
        omega
      have cipher : (xorBytes (plain.take mdSigSize) digest).length = mdSigSize := by
        rw [xor_bytes_length _ _ (by omega), first]
      have some : xorBytes (plain.take mdSigSize) digest ≠ [] := by
        intro none
        rw [none] at cipher
        simp [mdSigSize] at cipher
      simp only [encryptSegments]
      rw [decrypt_segments_step _ _ _ _ _ (by simp [some]), List.take_left' cipher, List.drop_left' cipher,
        xor_bytes_involutive _ _ (by omega),
        induction fuel _ _ (by omega) (by simp [mdSigSize]) rest, List.take_append_drop]

/-! ## An octet at a time -/

theorem decrypt_octets_inside (env : Env) (secret : Bytes) (cnt : Nat)
    (digest saved segment rest : Bytes) (inside : 0 < cnt)
    (fits : cnt + segment.length ≤ mdSigSize) (wide : digest.length = mdSigSize) :
    decryptOctets env secret cnt digest saved (segment ++ rest) =
      xorBytes segment (digest.drop cnt) ++
        decryptOctets env secret (cnt + segment.length) digest saved rest := by
  induction segment generalizing cnt with
  | nil => simp [xorBytes]
  | cons octet octets induction =>
    simp only [List.length_cons] at fits
    have below : ¬ cnt ≥ mdSigSize := by omega
    have started : cnt ≠ 0 := by omega
    have next := induction (cnt + 1) (by omega) (by omega)
    have here : digest.drop cnt = digest.getD cnt 0 :: digest.drop (cnt + 1) := by
      rw [List.drop_eq_getElem_cons (by omega), List.getD_eq_getElem _ _ (by omega)]
    rw [here]
    simp only [List.cons_append, decryptOctets, below, started, if_false, next, xorBytes,
      List.zip_cons_cons, List.map_cons, List.length_cons]
    rw [Nat.add_right_comm, Nat.add_assoc]

theorem decrypt_octets_segment (env : Env) (secret digest saved cipher : Bytes)
    (wide : digest.length = mdSigSize) (some : cipher ≠ []) :
    decryptOctets env secret 0 digest saved cipher =
      xorBytes (cipher.take mdSigSize) digest ++
        decryptOctets env secret (cipher.take mdSigSize).length digest
          (overwrite saved 0 (cipher.take mdSigSize)) (cipher.drop mdSigSize) := by
  cases cipher with
  | nil => exact absurd rfl some
  | cons octet rest =>
    have split : (octet :: rest).take mdSigSize = octet :: rest.take 15 := rfl
    have behind : (octet :: rest).drop mdSigSize = rest.drop 15 := rfl
    have here : xorBytes (octet :: rest.take 15) digest =
        (octet ^^^ digest.getD 0 0) :: xorBytes (rest.take 15) (digest.drop 1) := by
      cases digest with
      | nil => simp [mdSigSize] at wide
      | cons first others => rfl
    have inside := decrypt_octets_inside env secret 1 digest
      (overwrite saved 0 (octet :: rest.take 15)) (rest.take 15) (rest.drop 15) (by omega)
      (by simp [mdSigSize]; omega) wide
    rw [List.take_append_drop] at inside
    rw [split, behind]
    simp only [decryptOctets, split]
    rw [if_neg (by simp [mdSigSize]), if_neg (by simp [mdSigSize]), if_pos rfl, inside, here,
      List.length_cons, Nat.add_comm 1]
    rfl

theorem decrypt_octets_segments (env : Env) (secret : Bytes) (fuel : Nat)
    (digest saved cipher : Bytes) (wide : digest.length = mdSigSize)
    (room : saved.length = mdSigSize) (enough : cipher.length ≤ fuel) :
    decryptOctets env secret 0 digest saved cipher =
      decryptSegments env secret fuel digest cipher := by
  induction fuel generalizing digest saved cipher with
  | zero =>
    have none : cipher = [] := by simpa using enough
    subst none
    rfl
  | succ fuel induction =>
    by_cases none : cipher = []
    · subst none
      rfl
    rw [decrypt_octets_segment env secret digest saved cipher wide none]
    rw [decrypt_segments_step env secret fuel digest cipher none]
    congr 1
    by_cases last : cipher.drop mdSigSize = []
    · rw [last]
      cases fuel <;> simp [decryptOctets, decryptSegments]
    have long : mdSigSize < cipher.length := by
      simpa using last
    have full : (cipher.take mdSigSize).length = mdSigSize := by
      rw [List.length_take]
      omega
    have replaced : overwrite saved 0 (cipher.take mdSigSize) = cipher.take mdSigSize := by
      rw [overwrite, full, Nat.zero_add, ← room, List.drop_length, List.take_zero,
        List.nil_append, List.append_nil]
    rw [full, replaced]
    have turn : decryptOctets env secret mdSigSize digest (cipher.take mdSigSize)
          (cipher.drop mdSigSize) =
        decryptOctets env secret 0 (List.ofFn (env.md5 (secret ++ cipher.take mdSigSize)))
          (cipher.take mdSigSize) (cipher.drop mdSigSize) := by
      cases rest : cipher.drop mdSigSize with
      | nil => exact absurd rest last
      | cons octet others => rfl
    rw [turn]
    exact induction _ _ _ (by simp [mdSigSize]) full
      (by rw [List.length_drop]; simp only [mdSigSize] at long ⊢; omega)

theorem decrypt_octets_length (env : Env) (secret : Bytes) (cnt : Nat)
    (digest saved cipher : Bytes) :
    (decryptOctets env secret cnt digest saved cipher).length = cipher.length := by
  induction cipher generalizing cnt digest saved with
  | nil => rfl
  | cons octet rest induction => simp only [decryptOctets, List.length_cons, induction]

theorem host_bytes_word (low high : UInt8) : hostBytes (word high low) = [low, high] := by
  have small := low.toNat_lt
  have large := high.toNat_lt
  simp only [hostBytes, word_toNat]
  rw [show (256 * high.toNat + low.toNat) % 256 = low.toNat by omega,
    show (256 * high.toNat + low.toNat) / 256 = high.toNat by omega]
  simp

theorem header_octets (data : Bytes) (long : 6 ≤ data.length) :
    ∃ a b c d e f rest, data = a :: b :: c :: d :: e :: f :: rest := by
  match data, long with
  | a :: b :: c :: d :: e :: f :: rest, _ => exact ⟨a, b, c, d, e, f, rest, rfl⟩

/-- What `decrypt_avp` leaves two octets behind the old header is what the
receiving loop goes on with. -/
theorem decrypt_avp_in_place (env : Env) (chal : Challenge) (saved data : Bytes)
    (room : saved.length = mdSigSize) (value : 8 ≤ (hostWord data 0 &&& 0x0FFF).toNat)
    (inside : (hostWord data 0 &&& 0x0FFF).toNat ≤ data.length) :
    decryptAvpInPlace env chal saved data =
      (decryptAvp env chal data).map fun plain => data.take 2 ++ plain := by
  cases known : chal.vector with
  | none => simp only [decryptAvpInPlace, decryptAvp, known, Option.map_none]
  | some vector =>
    have segments := decrypt_octets_segments env chal.secret
      (hostWord data 0 &&& 0x0FFF).toNat
      (List.ofFn (env.md5 (netBytes (hostWord data 4) ++ chal.secret ++ vector))) saved
      ((data.take (hostWord data 0 &&& 0x0FFF).toNat).drop 6) (by simp [mdSigSize]) room
      (by rw [List.length_drop, List.length_take]; omega)
    have length := decrypt_octets_length env chal.secret 0
      (List.ofFn (env.md5 (netBytes (hostWord data 4) ++ chal.secret ++ vector))) saved
      ((data.take (hostWord data 0 &&& 0x0FFF).toNat).drop 6)
    rw [segments, List.length_drop, List.length_take, Nat.min_eq_left inside] at length
    simp only [decryptAvpInPlace, decryptAvp, known, segments]
    generalize decryptSegments env chal.secret (hostWord data 0 &&& 0x0FFF).toNat _ _ = plain at length ⊢
    generalize data.drop (hostWord data 0 &&& 0x0FFF).toNat = behind
    obtain ⟨a, b, c, d, e, f, rest, rfl⟩ := header_octets data (by omega)
    obtain ⟨g, h, others, rfl⟩ : ∃ g h others, plain = g :: h :: others := by
      rcases plain with _ | ⟨g, _ | ⟨h, others⟩⟩
      · rw [List.length_nil] at length
        omega
      · rw [List.length_singleton] at length
        omega
      · exact ⟨g, h, others, rfl⟩
    have flags (length : UInt16) : length &&& 0xF000 &&& ~~~0x4000 = length &&& 0xB000 := by
      rw [UInt16.and_assoc]
      rfl
    simp only [hostWord, netWord, overwrite, flags, List.cons_append, List.nil_append,
      List.take_succ_cons, List.take_zero, List.drop_succ_cons, List.drop_zero,
      List.getD_cons_zero, List.getD_cons_succ, Nat.reduceAdd, List.length_cons, List.length_nil,
      host_bytes_word]
    split
    · rfl
    · simp [hostBytes]

/-! ## The header -/

theorem word_or_and (first second mask : UInt16) :
    (first ||| second) &&& mask = (first &&& mask) ||| (second &&& mask) := by
  apply UInt16.toNat_inj.mp
  simp only [UInt16.toNat_and, UInt16.toNat_or, Nat.and_or_distrib_right]

theorem length_low (length : Nat) (short : length ≤ 1023) :
    UInt16.ofNat length &&& 0x03FF = UInt16.ofNat length := by
  apply UInt16.toNat_inj.mp
  rw [UInt16.toNat_and, UInt16.toNat_ofNat']
  have mask : (0x03FF : UInt16).toNat = 2 ^ 10 - 1 := rfl
  rw [mask, Nat.and_two_pow_sub_one_eq_mod]
  omega

theorem length_and (length : Nat) (mask : UInt16) (short : length ≤ 1023) :
    UInt16.ofNat length &&& mask = UInt16.ofNat length &&& (0x03FF &&& mask) := by
  rw [← UInt16.and_assoc, length_low length short]

theorem length_mask (length : Nat) (short : length ≤ 1023) :
    UInt16.ofNat length &&& 0x0FFF = UInt16.ofNat length := by
  rw [length_and length _ short]
  exact length_low length short

theorem length_no_flags (length : Nat) (short : length ≤ 1023) :
    UInt16.ofNat length &&& 0xB000 = 0 := by
  rw [length_and length _ short]
  exact UInt16.and_zero

theorem hidden_header_length (length : Nat) (first : UInt16) (short : length ≤ 1023) :
    (UInt16.ofNat length ||| (first &&& 0xF000) ||| 0x4000) &&& 0x0FFF = UInt16.ofNat length := by
  have flags : first &&& 0xF000 &&& 0x0FFF = 0 := by
    rw [UInt16.and_assoc]
    exact UInt16.and_zero
  rw [word_or_and, word_or_and, length_mask length short, flags, UInt16.or_zero]
  exact UInt16.or_zero

theorem hidden_header_flags (length : Nat) (first : UInt16) (short : length ≤ 1023) :
    (UInt16.ofNat length ||| (first &&& 0xF000) ||| 0x4000) &&& 0xB000 =
      first &&& 0xF000 &&& ~~~0x4000 := by
  rw [word_or_and, word_or_and, length_no_flags length short, UInt16.zero_or, UInt16.and_assoc,
    UInt16.and_assoc]
  exact UInt16.or_zero

/-! ## The round trip -/

/-- An AVP as the sender lays it out, from the first word of its header. -/
def plainAvp (first vendor attr : UInt16) (value : Bytes) : Bytes :=
  netBytes first ++ netBytes vendor ++ netBytes attr ++ value

/-- The length of the value, the value, and octets of the buffer that fill the last segment. -/
def hiddenPlain (value tail : Bytes) : Bytes :=
  (netBytes (UInt16.ofNat value.length) ++ value ++ tail).take
    (((value.length + 1) / 16 + 1) * 16)

theorem hidden_length_value (value : Bytes) :
    hiddenLength (value.length + 6) = ((value.length + 1) / 16 + 1) * 16 + 6 := by
  simp [hiddenLength]

theorem encrypt_avp_layout (env : Env) (chal : Challenge) (first vendor attr : UInt16)
    (value tail : Bytes) (low high : UInt8) :
    encryptAvp env chal (value.length + 6) (low :: high :: (plainAvp first vendor attr value ++ tail))
      =
      netBytes (UInt16.ofNat (((value.length + 1) / 16 + 1) * 16 + 6) ||| (first &&& 0xF000) |||
          0x4000) ++ netBytes vendor ++ netBytes attr ++
        encryptSegments env chal.secret ((value.length + 1) / 16 + 1)
          (List.ofFn (env.md5 (netBytes attr ++ chal.secret ++
            (chal.vector.getD []).take vectorSize)))
          (hiddenPlain value tail) ++
        (netBytes (UInt16.ofNat value.length) ++ value ++ tail).drop
          (((value.length + 1) / 16 + 1) * 16) := by
  have flags : netWord (low :: high :: (plainAvp first vendor attr value ++ tail)) 2 = first := by
    simp [netWord, plainAvp, netBytes, word_net_bytes]
  unfold encryptAvp
  simp only [flags, hidden_length_value]
  simp [overwrite, plainAvp, netBytes, hiddenPlain]

theorem hidden_plain_length (value tail : Bytes)
    (room : ((value.length + 1) / 16 + 1) * 16 ≤ value.length + 2 + tail.length) :
    (hiddenPlain value tail).length = ((value.length + 1) / 16 + 1) * mdSigSize := by
  simp only [hiddenPlain, List.length_take, List.length_append, netBytes, List.length_cons,
    List.length_nil, mdSigSize]
  omega

theorem hidden_plain_word (value tail : Bytes) (short : value.length < 65536) :
    (netWord (hiddenPlain value tail) 0).toNat = value.length := by
  have shape : hiddenPlain value tail =
      UInt8.ofNat ((UInt16.ofNat value.length).toNat / 256) ::
        UInt8.ofNat ((UInt16.ofNat value.length).toNat % 256) ::
        (value ++ tail).take ((value.length + 1) / 16 * 16 + 14) := by
    simp only [hiddenPlain, netBytes, List.cons_append, List.nil_append]
    rw [show ((value.length + 1) / 16 + 1) * 16 = (value.length + 1) / 16 * 16 + 14 + 1 + 1 by omega]
    rfl
  rw [shape]
  simp only [netWord, List.getD_cons_zero, List.getD_cons_succ]
  rw [word_net_bytes, UInt16.toNat_ofNat']
  omega

theorem hidden_plain_rest (value tail : Bytes)
    (room : ((value.length + 1) / 16 + 1) * 16 ≤ value.length + 2 + tail.length) :
    (hiddenPlain value tail).drop 2 ++
        (netBytes (UInt16.ofNat value.length) ++ value ++ tail).drop
          (((value.length + 1) / 16 + 1) * 16) =
      value ++ tail := by
  have long : 2 ≤ (hiddenPlain value tail).length := by
    rw [hidden_plain_length value tail room]
    simp only [mdSigSize]
    omega
  rw [← List.drop_append_of_le_length long, hiddenPlain, List.take_append_drop]
  rfl

theorem host_word_zero (value : UInt16) (rest : Bytes) :
    hostWord (hostBytes value ++ rest) 0 = value := by
  simp [hostWord, hostBytes, word_net_bytes]

theorem host_word_succ (value : UInt16) (rest : Bytes) (offset : Nat) :
    hostWord (hostBytes value ++ rest) (offset + 2) = hostWord rest offset := rfl

theorem decrypt_avp_swapped (env : Env) (chal : Challenge) (vector cipher rest : Bytes)
    (first vendor attr : UInt16) (known : chal.vector = some vector)
    (size : (first &&& 0x0FFF).toNat = cipher.length + 6) :
    decryptAvp env chal (swaps 3 (netBytes first ++ netBytes vendor ++ netBytes attr ++ cipher ++
        rest)) =
      let plain := decryptSegments env chal.secret (cipher.length + 6)
        (List.ofFn (env.md5 (netBytes attr ++ chal.secret ++ vector))) cipher
      if (netWord plain 0).toNat + 6 + 2 > cipher.length + 6 then none
      else some (hostBytes (UInt16.ofNat ((netWord plain 0).toNat + 6) ||| (first &&& 0xB000)) ++
        hostBytes vendor ++ hostBytes attr ++ plain.drop 2 ++ rest) := by
  have swapped : swaps 3 (netBytes first ++ netBytes vendor ++ netBytes attr ++ cipher ++ rest) =
      hostBytes first ++ hostBytes vendor ++ hostBytes attr ++ (cipher ++ rest) := by
    simp [swaps, netBytes, hostBytes]
  have head : (hostBytes first ++ hostBytes vendor ++ hostBytes attr).length = 6 := rfl
  have words : hostWord (hostBytes first ++ hostBytes vendor ++ hostBytes attr ++ (cipher ++ rest))
        0 = first ∧
      hostWord (hostBytes first ++ hostBytes vendor ++ hostBytes attr ++ (cipher ++ rest)) 2 =
        vendor ∧
      hostWord (hostBytes first ++ hostBytes vendor ++ hostBytes attr ++ (cipher ++ rest)) 4 =
        attr := by
    simp [hostWord, hostBytes, word_net_bytes]
  have inner : ((hostBytes first ++ hostBytes vendor ++ hostBytes attr ++ (cipher ++ rest)).take
      (cipher.length + 6)).drop 6 = cipher := by
    simp [hostBytes]
  have behind : (hostBytes first ++ hostBytes vendor ++ hostBytes attr ++ (cipher ++ rest)).drop
      (cipher.length + 6) = rest := by
    simp [hostBytes]
  unfold decryptAvp
  simp only [known, swapped, words, size, inner, behind]

theorem decrypt_avp_encrypt (env : Env) (us them : Challenge)
    (vector spare value tail : Bytes) (first vendor attr : UInt16)
    (shared : us.secret = them.secret) (sent : them.vector = some vector)
    (known : us.vector = some vector) (sixteen : vector.length = 16) (two : spare.length = 2)
    (fits : ((value.length + 1) / 16 + 1) * 16 + 6 ≤ 1023)
    (room : ((value.length + 1) / 16 + 1) * 16 + 6 ≤ value.length + 8 + tail.length) :
    decryptAvp env us (swaps 3 (encryptAvp env them (value.length + 6)
        (spare ++ plainAvp first vendor attr value ++ tail))) =
      some (hostBytes (UInt16.ofNat (value.length + 6) ||| (first &&& 0xF000 &&& ~~~0x4000)) ++
        hostBytes vendor ++ hostBytes attr ++ value ++ tail) := by
  obtain ⟨low, high, rfl⟩ := List.length_eq_two.mp two
  have layout := encrypt_avp_layout env them first vendor attr value tail low high
  have long : value.length < 65536 := by omega
  have whole := hidden_plain_length value tail (by omega)
  have digest : (List.ofFn (env.md5 (netBytes attr ++ them.secret ++ vector))).length =
      mdSigSize := by
    simp [mdSigSize]
  have cipher := encrypt_segments_length env them.secret _ _ _ digest whole
  rw [sent, Option.getD_some, List.take_of_length_le (by rw [sixteen]; rfl)] at layout
  rw [List.append_assoc, List.cons_append, List.cons_append, List.nil_append, layout,
    decrypt_avp_swapped env us vector _ _ _ vendor attr known]
  · have opened := decrypt_encrypt_segments env them.secret
      (((value.length + 1) / 16 + 1) * mdSigSize + 6) _ _ _
      (by simp only [mdSigSize]; omega) digest whole
    have value := hidden_plain_rest value tail (by omega)
    simp only [shared, cipher, whole, opened, hidden_plain_word _ tail long,
      hidden_header_flags _ _ fits]
    rw [if_neg (by simp only [mdSigSize]; omega)]
    simp only [List.append_assoc] at value ⊢
    rw [value]
  · rw [hidden_header_length _ _ fits, cipher, whole, UInt16.toNat_ofNat']
    simp only [mdSigSize]
    omega

/-- The swapped packet: its first word holds the padded length, and nothing of the
buffer is lost. -/
theorem encrypt_avp_swapped (env : Env) (chal : Challenge) (value tail : Bytes)
    (first vendor attr : UInt16) (low high : UInt8)
    (fits : ((value.length + 1) / 16 + 1) * 16 + 6 ≤ 1023)
    (room : ((value.length + 1) / 16 + 1) * 16 + 6 ≤ value.length + 8 + tail.length) :
    let hidden := swaps 3 (encryptAvp env chal (value.length + 6)
      (low :: high :: (plainAvp first vendor attr value ++ tail)))
    (hostWord hidden 0 &&& 0x0FFF).toNat = ((value.length + 1) / 16 + 1) * 16 + 6 ∧
      hidden.length = value.length + 8 + tail.length := by
  have whole := hidden_plain_length value tail (by omega)
  have cipher := encrypt_segments_length env chal.secret ((value.length + 1) / 16 + 1)
    (List.ofFn (env.md5 (netBytes attr ++ chal.secret ++ (chal.vector.getD []).take vectorSize)))
    (hiddenPlain value tail) (by simp [mdSigSize]) whole
  have word := hidden_header_length (((value.length + 1) / 16 + 1) * 16 + 6) first fits
  simp only [encrypt_avp_layout]
  constructor
  · simp only [netBytes, List.cons_append, List.nil_append, swaps, hostWord, List.getD_cons_zero,
      List.getD_cons_succ, word_net_bytes, word, UInt16.toNat_ofNat']
    omega
  · simp only [swaps_length, net_bytes_length, List.length_append, List.length_drop, cipher, whole,
      mdSigSize]
    omega

theorem hidden_avp_round_trip (env : Env) (us them : Challenge)
    (vector spare value tail saved : Bytes) (first vendor attr : UInt16)
    (shared : us.secret = them.secret) (sent : them.vector = some vector)
    (known : us.vector = some vector) (sixteen : vector.length = 16) (two : spare.length = 2)
    (segment : saved.length = 16) (fits : ((value.length + 1) / 16 + 1) * 16 + 6 ≤ 1023)
    (room : ((value.length + 1) / 16 + 1) * 16 + 6 ≤ value.length + 8 + tail.length) :
    let hidden := swaps 3 (encryptAvp env them (value.length + 6)
      (spare ++ plainAvp first vendor attr value ++ tail))
    decryptAvpInPlace env us saved hidden =
      some (hidden.take 2 ++
        (hostBytes (UInt16.ofNat (value.length + 6) ||| (first &&& 0xF000 &&& ~~~0x4000)) ++
          hostBytes vendor ++ hostBytes attr ++ value ++ tail)) := by
  intro hidden
  have opened := decrypt_avp_encrypt env us them vector spare value tail first vendor attr shared
    sent known sixteen two fits room
  obtain ⟨low, high, rfl⟩ := List.length_eq_two.mp two
  have shape := encrypt_avp_swapped env them value tail first vendor attr low high fits room
  have same : hidden = swaps 3 (encryptAvp env them (value.length + 6)
      (low :: high :: (plainAvp first vendor attr value ++ tail))) := by
    simp only [hidden, List.cons_append, List.nil_append]
  rw [← same] at shape
  rw [decrypt_avp_in_place env us saved hidden segment (by omega) (by omega), opened]
  rfl

theorem hidden_avp_sample :
    let us : Challenge := { secret := [7], vector := some (List.replicate 16 9) }
    let hidden := swaps 3 (encryptAvp (sampleEnv (fun _ _ => none) 5) us 9
      ([0, 0] ++ plainAvp 0x8009 0 7 [1, 2, 3] ++ List.replicate 20 5))
    decryptAvpInPlace (sampleEnv (fun _ _ => none) 5) us (List.replicate 16 0) hidden =
      some (hidden.take 2 ++
        (hostBytes (UInt16.ofNat 9 ||| (0x8009 &&& 0xF000 &&& ~~~0x4000)) ++
          hostBytes 0 ++ hostBytes 7 ++ [1, 2, 3] ++ List.replicate 20 5)) :=
  hidden_avp_round_trip (sampleEnv (fun _ _ => none) 5)
    { secret := [7], vector := some (List.replicate 16 9) }
    { secret := [7], vector := some (List.replicate 16 9) } (List.replicate 16 9) [0, 0] [1, 2, 3]
    (List.replicate 20 5) (List.replicate 16 0) 0x8009 0 7 rfl rfl rfl rfl rfl rfl (by decide)
    (by decide)

end Xl2tpd
