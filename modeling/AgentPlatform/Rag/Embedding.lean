import AgentPlatform.Base.Double
import AgentPlatform.Base.Pattern

/-! # Local embeddings -/

namespace AgentPlatform.Rag

open Python

structure LocalHashEmbedding where
  dimensions : Nat
  enough : 32 ≤ dimensions

/-- `re.findall` of `[a-z0-9]+`. -/
def tokensOf (text : List Char) : List String :=
  ((text.splitOnP fun c => !(isLetter c || ('0' ≤ c && c ≤ '9'))).filter (· ≠ [])).map String.ofList

namespace LocalHashEmbedding

variable (embedding : LocalHashEmbedding)

theorem default_enough : 32 ≤ 256 := by decide

def default : LocalHashEmbedding := ⟨256, default_enough⟩

/-- `int.from_bytes(digest[:4]) % dimensions`. -/
def position (digest : Fin 32 → UInt8) : Nat :=
  ((((digest 0).toNat * 256 + (digest 1).toNat) * 256 + (digest 2).toNat) * 256 + (digest 3).toNat) %
    embedding.dimensions

def sign (digest : Fin 32 → UInt8) : Double := if (digest 4).toNat % 2 = 0 then 1 else -1

/-- The body of the loop over the tokens. -/
def count (sha256 : ByteArray → Fin 32 → UInt8) (vector : List Double) (token : String) : List Double :=
  let digest := sha256 token.toUTF8
  vector.modify (embedding.position digest) (· + sign digest)

def norm (vector : List Double) : List Double :=
  let magnitude := (Double.sum (vector.map fun value => value * value)).sqrt
  if magnitude.eq 0 then vector else vector.map (· / magnitude)

def embed (unicode : Unicode) (sha256 : ByteArray → Fin 32 → UInt8) (text : String) : List Double :=
  norm ((tokensOf (unicode.casefold text).toList).foldl (embedding.count sha256)
    (List.replicate embedding.dimensions 0))

variable {embedding}

theorem position_lt (digest : Fin 32 → UInt8) : embedding.position digest < embedding.dimensions :=
  Nat.mod_lt _ (Nat.lt_of_lt_of_le (Nat.succ_pos 31) embedding.enough)

/-! ## Vectors of one token -/

/-- Zeros around one number. -/
def spike (before after : Nat) (value : Double) : List Double :=
  List.replicate before 0 ++ value :: List.replicate after 0

section

variable {before after : Nat}

theorem map_spike {value : Double} {f : Double → Double} (kept : f 0 = 0) :
    (spike before after value).map f = spike before after (f value) := by
  rw [spike, List.map_append, List.map_cons, List.map_replicate, List.map_replicate, kept, spike]

theorem modify_spike (value : Double) (f : Double → Double) :
    (spike before after value).modify before f = spike before after (f value) := by
  induction before with
  | zero => rfl
  | succ before ih => exact congrArg (0 :: ·) ih

theorem sum_spike {value : Rat} {isDouble : IsDouble value} :
    Double.sum (spike before after (.finite value isDouble)) = .finite value isDouble :=
  Double.sum_single before after

theorem replicate_eq_spike {dimensions position : Nat} (within : position < dimensions) :
    List.replicate dimensions (0 : Double) = spike position (dimensions - position - 1) 0 := by
  obtain ⟨after, rfl⟩ := Nat.exists_eq_add_of_lt within
  have rest : position + after + 1 - position - 1 = after := by omega
  rw [rest, spike, ← List.replicate_succ, ← List.replicate_add, Nat.add_assoc]

theorem norm_spike {value : Double} {square root : Rat} {isSquare : IsDouble square} {isRoot : IsDouble root}
    (squared : value * value = .finite square isSquare)
    (rooted : (Double.finite square isSquare).sqrt = .finite root isRoot) (positive : root ≠ 0) :
    norm (spike before after value) = spike before after (value / .finite root isRoot) := by
  have nonzero : (Double.finite root isRoot).eq 0 ≠ true := by
    rw [ne_eq, Double.eq_iff (by simp)]
    exact fun same => positive (Double.finite.inj same)
  have squares : (spike before after value).map (fun value => value * value) =
      spike before after (.finite square isSquare) := by
    rw [← squared]
    exact map_spike Double.zero_mul_zero
  rw [norm, squares, sum_spike, rooted, if_neg nonzero]
  exact map_spike Double.zero_div_finite

end

theorem sign_cases (digest : Fin 32 → UInt8) : sign digest = 1 ∨ sign digest = -1 := by
  unfold sign
  split
  · exact .inl rfl
  · exact .inr rfl

theorem norm_one {value : Double} (unit : value = 1 ∨ value = -1) (before after : Nat) :
    norm (spike before after (0 + value)) = spike before after value := by
  have root : (Double.finite 1 isDouble_one).sqrt = .finite 1 isDouble_one := by decide +kernel
  have scaled : (0 + value) * (0 + value) = .finite 1 isDouble_one ∧ (0 + value) / .finite 1 isDouble_one = value := by
    rcases unit with rfl | rfl <;> decide +kernel
  rw [norm_spike scaled.1 root one_ne_zero, scaled.2]

theorem isDouble_three : IsDouble 3 := by exact_mod_cast @isDouble_natCast 3 (by norm_num)

theorem isDouble_nine : IsDouble 9 := by exact_mod_cast @isDouble_natCast 9 (by norm_num)

theorem norm_three {value : Double} (unit : value = 1 ∨ value = -1) (before after : Nat) :
    norm (spike before after (0 + value + value + value)) = spike before after value := by
  have root : (Double.finite 9 isDouble_nine).sqrt = .finite 3 isDouble_three := by decide +kernel
  have scaled : (0 + value + value + value) * (0 + value + value + value) = .finite 9 isDouble_nine ∧
      (0 + value + value + value) / .finite 3 isDouble_three = value := by
    rcases unit with rfl | rfl <;> decide +kernel
  rw [norm_spike scaled.1 root three_ne_zero, scaled.2]

/-- The vector of a text in which a token stands alone or three times: one and its sign. -/
theorem embed_token {unicode : Unicode} {sha256 : ByteArray → Fin 32 → UInt8} {text token : String} {times : Nat}
    (same : tokensOf (unicode.casefold text).toList = List.replicate times token) (few : times = 1 ∨ times = 3) :
    embedding.embed unicode sha256 text = spike (embedding.position (sha256 token.toUTF8))
      (embedding.dimensions - embedding.position (sha256 token.toUTF8) - 1) (sign (sha256 token.toUTF8)) := by
  have counted (value : Double) : embedding.count sha256 (spike (embedding.position (sha256 token.toUTF8))
      (embedding.dimensions - embedding.position (sha256 token.toUTF8) - 1) value) token =
        spike (embedding.position (sha256 token.toUTF8))
          (embedding.dimensions - embedding.position (sha256 token.toUTF8) - 1) (value + sign (sha256 token.toUTF8)) :=
    modify_spike _ _
  have unit := sign_cases (sha256 token.toUTF8)
  rw [embed, same, replicate_eq_spike (position_lt (sha256 token.toUTF8))]
  rcases few with rfl | rfl
  · rw [List.replicate_one, List.foldl_cons, List.foldl_nil, counted, norm_one unit]
  · simp only [List.replicate_succ, List.replicate_zero, List.foldl_cons, List.foldl_nil, counted, norm_three unit]

/-- Two texts of the same one token, once or three times, are as similar as can be. -/
theorem similarity_token {unicode : Unicode} {sha256 : ByteArray → Fin 32 → UInt8} {text text' token : String}
    {times times' : Nat} (same : tokensOf (unicode.casefold text).toList = List.replicate times token)
    (same' : tokensOf (unicode.casefold text').toList = List.replicate times' token) (few : times = 1 ∨ times = 3)
    (few' : times' = 1 ∨ times' = 3) :
    Double.sum (List.zipWith (· * ·) (embedding.embed unicode sha256 text) (embedding.embed unicode sha256 text')) = 1 := by
  have square : sign (sha256 token.toUTF8) * sign (sha256 token.toUTF8) = .finite 1 isDouble_one := by
    rcases sign_cases (sha256 token.toUTF8) with unit | unit <;> rw [unit] <;> decide +kernel
  rw [embed_token same few, embed_token same' few', List.zipWith_self,
    @map_spike _ _ _ (fun value => value * value) Double.zero_mul_zero, square]
  exact sum_spike

end LocalHashEmbedding

end AgentPlatform.Rag
