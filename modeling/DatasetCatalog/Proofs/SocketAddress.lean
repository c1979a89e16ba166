import DatasetCatalog.Proofs.Text.Decimal
import DatasetCatalog.SocketAddress

/-!
# Addresses survive their text

`SocketAddress.parse?` reads every address back from its text (`parse?_text`). For a host of eight
groups three things come together: the groups that two colons stand for are zero, whichever run was
chosen (`longestZeros_split`); the reader takes as many groups as were written and stops where the
colons or the bracket begin (`readGroups_join`); and the octets of a mapped host stand for its last
two groups.
-/

namespace DatasetCatalog.SocketAddress

/-- What may follow groups: the bracket, a zone, or two colons. -/
inductive Stops : List Char → Prop
  | bracket (rest : List Char) : Stops (']' :: rest)
  | zone (rest : List Char) : Stops ('%' :: rest)
  | colons (rest : List Char) : Stops (':' :: ':' :: rest)

variable {rest : List Char}

/-! ### Numbers -/

theorem decimal_digits {bound n : Nat} (h : n < bound)
    (ends : Ends (fun c => (Decimal.digitValue? c).isSome) rest) :
    decimal bound (Decimal.digits n ++ rest) = some (n, rest) := by
  have run := takeWhile_run (fun c hc => Decimal.isSome_of_mem_digits (n := n) hc) ends
  rw [decimal, run, Decimal.value_digits]
  simp [Decimal.digits_ne_nil, Nat.not_le.2 h]

theorem octet_digits (a : UInt8) (ends : Ends (fun c => (Decimal.digitValue? c).isSome) rest) :
    octet (Decimal.digits a.toNat ++ rest) = some (a, rest) := by
  have small : a.toNat < 256 := a.toNat_lt
  rw [octet, decimal_digits small ends]
  simp

/-- Four octets are read back. -/
theorem octets_text (a b c d : UInt8)
    (ends : Ends (fun c => (Decimal.digitValue? c).isSome) rest) :
    octets (octetsText a b c d ++ rest) = some ((a, b, c, d), rest) := by
  have point (cs : List Char) : Ends (fun c => (Decimal.digitValue? c).isSome) ('.' :: cs) :=
    ends_cons.2 rfl
  simp [octets, octetsText, octet_digits a (point _), octet_digits b (point _),
    octet_digits c (point _), octet_digits d ends, take]

/-- A number is all the digits in front. -/
theorem rest_of_octet {cs : List Char} {a : UInt8} (h : octet cs = some (a, rest)) :
    rest = cs.dropWhile fun c => (Decimal.digitValue? c).isSome := by
  have split := cs.takeWhile_append_dropWhile (p := fun c => (Decimal.digitValue? c).isSome)
  have behind : cs.drop (cs.takeWhile fun c => (Decimal.digitValue? c).isSome).length =
      cs.dropWhile fun c => (Decimal.digitValue? c).isSome := by
    conv => lhs; arg 2; rw [← split]
    exact List.drop_left
  rw [octet, decimal] at h
  split at h
  · cases h
  · simp only [Option.bind_eq_bind, Option.bind_some] at h
    split at h
    · cases h
      exact behind
    · cases h

/-- Without a point behind the digits in front there are no octets. -/
theorem octets_eq_none {cs : List Char}
    (h : '.' ∉ (cs.dropWhile fun c => (Decimal.digitValue? c).isSome).head?) :
    octets cs = none := by
  rw [octets]
  cases read : octet cs with
  | none => rfl
  | some r =>
    obtain ⟨a, after⟩ := r
    rw [← rest_of_octet read] at h
    have missing : take '.' after = none := by
      cases after with
      | nil => rfl
      | cons c after =>
        have other : c ≠ '.' := by simpa using h
        simp [take, other]
    simp [missing]

/-- Where digits end, no point comes: what follows them starts with none, or they were hexadecimal. -/
theorem not_point_behind {ds : List Char} (hex : ∀ c ∈ ds, c ≠ '.')
    (ends : Ends (fun c => (Decimal.digitValue? c).isSome) rest) (h : '.' ∉ rest.head?) :
    '.' ∉ ((ds ++ rest).dropWhile fun c => (Decimal.digitValue? c).isSome).head? := by
  induction ds with
  | nil =>
    have whole := dropWhile_run (List.forall_mem_nil _) ends
    rw [List.nil_append] at whole ⊢
    rwa [whole]
  | cons d ds ih =>
    rw [List.cons_append, List.dropWhile_cons]
    split
    · exact ih fun c hc => hex c (List.mem_cons_of_mem _ hc)
    · have other := hex d List.mem_cons_self
      simpa using other

theorem group_digits (g : UInt16) (ends : Ends (fun c => (Hex.digitValue? c).isSome) rest) :
    group (Hex.digits g.toNat ++ rest) = some (g, rest) := by
  have run := takeWhile_run (fun c hc => Hex.isSome_of_mem_digits (n := g.toNat) hc) ends
  have short : ¬ 4 < (Hex.digits g.toNat).length :=
    Nat.not_lt.2 (Hex.length_digits (show g.toNat < Nat.pow 16 (3 + 1) from g.toNat_lt))
  rw [group, run, Hex.value?_digits]
  simp [Hex.digits_ne_nil, short]

/-! ### Groups -/

/-- No number goes on here: neither a group, nor an octet. -/
def Closes (rest : List Char) : Prop :=
  Ends (fun c => (Hex.digitValue? c).isSome) rest ∧
    Ends (fun c => (Decimal.digitValue? c).isSome) rest ∧ '.' ∉ rest.head?

theorem closes_cons {c : Char} (hex : (Hex.digitValue? c).isSome = false)
    (dec : (Decimal.digitValue? c).isSome = false) (point : c ≠ '.') : Closes (c :: rest) :=
  ⟨ends_cons.2 hex, ends_cons.2 dec, by simpa using point⟩

theorem Stops.closes (h : Stops rest) : Closes rest := by
  cases h <;> exact closes_cons rfl rfl (by decide)

theorem octets_of_closes (h : Closes rest) : octets rest = none := by
  have nothing := not_point_behind (List.forall_mem_nil _) h.2.1 h.2.2
  exact octets_eq_none nothing

theorem group_of_closes (h : Closes rest) : group rest = none := by
  have nothing : rest.takeWhile (fun c => (Hex.digitValue? c).isSome) = [] :=
    takeWhile_run (List.forall_mem_nil _) h.1
  rw [group, nothing]
  rfl

/-- A group is not taken for the first of four octets. -/
theorem octets_group (g : UInt16) (h : Closes rest) :
    octets (Hex.digits g.toNat ++ rest) = none := by
  refine octets_eq_none (not_point_behind (fun c hc same => ?_) h.2.1 h.2.2)
  have digit := Hex.isSome_of_mem_digits hc
  rw [same] at digit
  cases digit

/-- Groups behind another one, each after a colon. -/
def moreGroups (gs : List UInt16) : List Char := gs.flatMap fun g => ':' :: Hex.digits g.toNat

theorem joinGroups_cons (g : UInt16) (gs : List UInt16) :
    joinGroups (g :: gs) = Hex.digits g.toNat ++ moreGroups gs := by
  induction gs generalizing g with
  | nil => simp [joinGroups, moreGroups]
  | cons h gs ih => simp [joinGroups, moreGroups, ih]

theorem Stops.closes_more (h : Stops rest) (gs : List UInt16) : Closes (moreGroups gs ++ rest) := by
  cases gs with
  | nil => exact h.closes
  | cons g gs => exact closes_cons rfl rfl (by decide)

/-- Where reading stops, there is no further group. -/
theorem Stops.separator_octets (h : Stops rest) (first : Bool) :
    (separator first rest).bind octets = none ∧ (separator first rest).bind group = none := by
  cases first with
  | true => exact ⟨octets_of_closes h.closes, group_of_closes h.closes⟩
  | false =>
    cases h with
    | bracket rest => exact ⟨rfl, rfl⟩
    | zone rest => exact ⟨rfl, rfl⟩
    | colons rest =>
      have closes : Closes (':' :: rest) := closes_cons rfl rfl (by decide)
      exact ⟨octets_of_closes closes, group_of_closes closes⟩

theorem readGroups_stop (h : Stops rest) (most : Nat) (first : Bool) :
    readGroups most first rest = ⟨[], false, rest⟩ := by
  obtain ⟨noOctets, noGroup⟩ := h.separator_octets first
  cases most with
  | zero => rfl
  | succ most => simp [readGroups, noOctets, noGroup]

/-- A group is read, and the others after it. -/
theorem readGroups_cons {most : Nat} {first : Bool} {cs : List Char} (g : UInt16)
    (front : separator first cs = some (Hex.digits g.toNat ++ rest)) (h : Closes rest) :
    readGroups (most + 1) first cs =
      ⟨g :: (readGroups most false rest).values, (readGroups most false rest).endsInOctets,
        (readGroups most false rest).rest⟩ := by
  simp [readGroups, front, octets_group g h, group_digits g h.1]

theorem readGroups_more (h : Stops rest) {most : Nat} {gs : List UInt16} (few : gs.length ≤ most) :
    readGroups most false (moreGroups gs ++ rest) = ⟨gs, false, rest⟩ := by
  induction gs generalizing most with
  | nil => exact readGroups_stop h most false
  | cons g gs ih =>
    obtain ⟨most, rfl⟩ := Nat.exists_eq_add_of_le' (Nat.le_trans (Nat.le_add_left 1 _) few)
    have front : separator false (moreGroups (g :: gs) ++ rest) =
        some (Hex.digits g.toNat ++ (moreGroups gs ++ rest)) := by
      simp [separator, take, moreGroups]
    rw [readGroups_cons g front (h.closes_more gs), ih (Nat.le_of_succ_le_succ few)]

/-- As many groups are read as were written. -/
theorem readGroups_join (h : Stops rest) {most : Nat} {gs : List UInt16} (few : gs.length ≤ most) :
    readGroups most true (joinGroups gs ++ rest) = ⟨gs, false, rest⟩ := by
  cases gs with
  | nil => exact readGroups_stop h most true
  | cons g gs =>
    obtain ⟨most, rfl⟩ := Nat.exists_eq_add_of_le' (Nat.le_trans (Nat.le_add_left 1 _) few)
    have front : separator true (joinGroups (g :: gs) ++ rest) =
        some (Hex.digits g.toNat ++ (moreGroups gs ++ rest)) := by
      simp [separator, joinGroups_cons]
    rw [readGroups_cons g front (h.closes_more gs), readGroups_more h (Nat.le_of_succ_le_succ few)]

/-! ### Runs of zeros -/

theorem zerosAhead_split (gs : List UInt16) : zerosAhead gs ≤ gs.length ∧
    gs = List.replicate (zerosAhead gs) 0 ++ gs.drop (zerosAhead gs) := by
  induction gs with
  | nil => exact ⟨Nat.le_refl _, rfl⟩
  | cons g gs ih =>
    by_cases zero : g = 0
    · have one : zerosAhead (g :: gs) = zerosAhead gs + 1 := by simp [zerosAhead, zero]
      rw [one, List.replicate_succ, List.cons_append, List.drop_succ_cons, ← ih.2, zero]
      exact ⟨Nat.succ_le_succ ih.1, rfl⟩
    · have none_ : zerosAhead (g :: gs) = 0 := by simp [zerosAhead, zero]
      rw [none_]
      exact ⟨Nat.zero_le _, rfl⟩

/-- The longest run of zeros is one: there are as many zeros as it is long where it starts. -/
theorem longestZeros_split (gs : List UInt16) :
    (longestZeros gs).1 + (longestZeros gs).2 ≤ gs.length ∧
      gs = gs.take (longestZeros gs).1 ++ (List.replicate (longestZeros gs).2 0 ++
        gs.drop ((longestZeros gs).1 + (longestZeros gs).2)) := by
  induction gs with
  | nil => exact ⟨Nat.le_refl _, rfl⟩
  | cons g gs ih =>
    rw [longestZeros]
    dsimp only
    split
    -- the run starts here, or one further than in the groups behind
    · simpa using zerosAhead_split (g :: gs)
    · obtain ⟨short, shape⟩ := ih
      have bound : (longestZeros gs).1 + 1 + (longestZeros gs).2 =
          (longestZeros gs).1 + (longestZeros gs).2 + 1 := by omega
      rw [bound, List.take_succ_cons, List.drop_succ_cons, List.cons_append, ← shape]
      exact ⟨Nat.succ_le_succ short, rfl⟩

/-! ### Hosts -/

/-- The octets that two groups are written as stand for these groups. -/
theorem groupsOf_octets (x y : UInt16) :
    groupsOf (x >>> 8).toUInt8 x.toUInt8 (y >>> 8).toUInt8 y.toUInt8 = [x, y] := by
  have whole (z : UInt16) :
      UInt16.ofNat (256 * (z >>> 8).toUInt8.toNat + z.toUInt8.toNat) = z := by
    have small := z.toNat_lt
    have high : (z >>> 8).toUInt8.toNat = z.toNat / 256 := by
      have shifted : (z >>> 8).toNat = z.toNat / 256 := by
        rw [UInt16.toNat_shiftRight]
        exact Nat.shiftRight_eq_div_pow _ 8
      rw [UInt16.toNat_toUInt8, shifted]
      omega
    have low : z.toUInt8.toNat = z.toNat % 256 := UInt16.toNat_toUInt8 z
    rw [high, low, Nat.div_add_mod]
    exact UInt16.ofNat_toNat
  rw [groupsOf, whole x, whole y]

theorem mapped_eq_some {gs : List UInt16} {a b c d : UInt8} (h : mapped? gs = some (a, b, c, d)) :
    gs = [0, 0, 0, 0, 0, 0xffff] ++ groupsOf a b c d := by
  unfold mapped? at h
  split at h
  · next x y =>
    cases h
    rw [groupsOf_octets]
    rfl
  · cases h

theorem ofList?_values (g : Groups) : ofList? g.values = some g := dif_pos g.length_values

/-- Two colons stand for the zeros between the groups around them. -/
theorem readHost_colons (g : Groups) (before after : List UInt16) (cs : List Char)
    (zeros : 0 < 8 - before.length - after.length)
    (shape : g.values = before ++ List.replicate (8 - before.length - after.length) 0 ++ after)
    (tail : ∀ most, after.length ≤ most →
      (readGroups most true cs).values = after ∧ (readGroups most true cs).rest = rest) :
    readHost (joinGroups before ++ ':' :: ':' :: cs) = some (g, rest) := by
  have front := readGroups_join (.colons cs) (show before.length ≤ 8 by omega)
  obtain ⟨values, remains⟩ := tail (7 - before.length) (by omega)
  have more : before.length ≠ 8 := by omega
  rw [readHost, front]
  simp [more, take, values, remains, -List.append_assoc, ← shape, ofList?_values]

/-- The groups of a mapped host are read: a group of ones, and octets for the last two. -/
theorem readGroups_mapped (a b c d : UInt8)
    (ends : Ends (fun c => (Decimal.digitValue? c).isSome) rest) (most : Nat) :
    readGroups (most + 3) true ("ffff:".toList ++ (octetsText a b c d ++ rest)) =
      ⟨0xffff :: groupsOf a b c d, true, rest⟩ := by
  have ones : Hex.digits (0xffff : UInt16).toNat = "ffff".toList := by
    simp [Hex.digits, Hex.digit]
  have front : separator true ("ffff:".toList ++ (octetsText a b c d ++ rest)) =
      some (Hex.digits (0xffff : UInt16).toNat ++ (':' :: (octetsText a b c d ++ rest))) := by
    rw [ones]
    rfl
  have last : readGroups (most + 2) false (':' :: (octetsText a b c d ++ rest)) =
      ⟨groupsOf a b c d, true, rest⟩ := by
    simp [readGroups, separator, take, octets_text a b c d ends]
  rw [readGroups_cons 0xffff front (closes_cons rfl rfl (by decide)), last]

/-- A host of eight groups is read back. -/
theorem readHost_text (g : Groups) (h : Stops rest) :
    readHost (groupsText g.values ++ rest) = some (g, rest) := by
  have eight := g.length_values
  have ends := h.closes.2.1
  unfold groupsText
  split
  · next a b c d mapped =>
    have shape := mapped_eq_some mapped
    refine readHost_colons g [] (0xffff :: groupsOf a b c d)
      ("ffff:".toList ++ (octetsText a b c d ++ rest)) (show 0 < 8 - 0 - 3 by decide) shape ?_
    intro most enough
    obtain ⟨most, rfl⟩ := Nat.exists_eq_add_of_le' (show 3 ≤ most from enough)
    rw [readGroups_mapped a b c d ends]
    exact ⟨rfl, rfl⟩
  · dsimp only
    obtain ⟨inside, shape⟩ := longestZeros_split g.values
    generalize (longestZeros g.values).1 = start at inside shape ⊢
    generalize (longestZeros g.values).2 = length at inside shape ⊢
    split
    · next several =>
      have before : (g.values.take start).length = start := by
        rw [List.length_take]
        omega
      have between : 8 - (g.values.take start).length - (g.values.drop (start + length)).length =
          length := by
        rw [before, List.length_drop]
        omega
      rw [List.append_assoc, List.append_assoc]
      refine readHost_colons g (g.values.take start) (g.values.drop (start + length))
        (joinGroups (g.values.drop (start + length)) ++ rest) (by omega) ?_ ?_
      · rw [between, List.append_assoc]
        exact shape
      · intro most enough
        rw [readGroups_join h enough]
        exact ⟨rfl, rfl⟩
    · have whole := readGroups_join h (Nat.le_of_eq eight)
      rw [readHost, whole]
      simp [eight, ofList?_values]

/-! ### Addresses -/

theorem not_digit_bracket : Ends (fun c => (Decimal.digitValue? c).isSome) (']' :: rest) :=
  ends_cons.2 rfl

theorem readZone_text (zone : UInt32) :
    readZone (zoneText zone ++ ']' :: rest) = (zone, ']' :: rest) := by
  by_cases zero : zone = 0
  · simp [zoneText, zero, readZone, take]
  · have small : zone.toNat < Nat.pow 2 32 := zone.toNat_lt
    simp [zoneText, zero, readZone, take, decimal_digits small not_digit_bracket]

theorem readService_text (service : UInt16) :
    readService (':' :: Decimal.digits service.toNat) = some service := by
  have small : service.toNat < Nat.pow 2 16 := service.toNat_lt
  have read := decimal_digits small ends_nil
  rw [List.append_nil] at read
  simp [readService, take, read]

/-- An address is read back from its text. -/
theorem parse?_text (a : SocketAddress) : parse? a.text = some a := by
  obtain ⟨host, service⟩ := a
  cases host with
  | octets a b c d =>
    have read : octets (octetsText a b c d ++ ':' :: Decimal.digits service.toNat) =
        some ((a, b, c, d), ':' :: Decimal.digits service.toNat) :=
      octets_text a b c d (ends_cons.2 rfl)
    simp [parse?, text, hostText, read, readService_text]
  | groups g zone =>
    let behind := zoneText zone ++ ']' :: ':' :: Decimal.digits service.toNat
    have noOctets (cs : List Char) : octets ('[' :: cs) = none :=
      octets_of_closes (closes_cons rfl rfl (by decide))
    have stops : Stops behind := by
      by_cases zero : zone = 0
      · simpa [behind, zoneText, zero] using Stops.bracket _
      · simpa [behind, zoneText, zero] using Stops.zone _
    have read : readHost (groupsText g.values ++ behind) = some (g, behind) :=
      readHost_text g stops
    have zoneRead : readZone behind = (zone, ']' :: ':' :: Decimal.digits service.toNat) :=
      readZone_text zone
    have written : (text ⟨.groups g zone, service⟩).toList =
        '[' :: (groupsText g.values ++ behind) := by
      simp [text, hostText, behind]
    rw [parse?, written, noOctets]
    simp [take, read, zoneRead, readService_text]

end DatasetCatalog.SocketAddress
