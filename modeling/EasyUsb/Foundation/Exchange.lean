import EasyUsb.Foundation.Program

namespace Foundation

namespace Program

variable {ε ε' α β : Type}

/-- What a computation reads and writes on a connection that neither breaks nor
ends, until it is the computation given last. -/
inductive Exchanges : Program ε α → List UInt8 → List UInt8 → Program ε α → Prop where
  | refl (p : Program ε α) : Exchanges p [] [] p
  | readExact {count : Nat} {next : Except String (List UInt8) → Program ε α}
    {bytes ins outs : List UInt8} {q : Program ε α} (size : bytes.length = count)
    (rest : Exchanges (next (.ok bytes)) ins outs q) :
    Exchanges (readExact count next) (bytes ++ ins) outs q
  | writeAll {bytes ins outs : List UInt8} {next : Except String Unit → Program ε α}
    {q : Program ε α} (rest : Exchanges (next (.ok ())) ins outs q) :
    Exchanges (writeAll bytes next) ins (bytes ++ outs) q

namespace Exchanges

theorem trans {p q r : Program ε α} {ins outs ins' outs' : List UInt8}
    (first : p.Exchanges ins outs q) (second : q.Exchanges ins' outs' r) :
    p.Exchanges (ins ++ ins') (outs ++ outs') r := by
  induction first with
  | refl p => exact second
  | readExact size rest ih =>
    rw [List.append_assoc]
    exact .readExact size (ih second)
  | writeAll rest ih =>
    rw [List.append_assoc]
    exact .writeAll (ih second)

theorem bind {p q : Program ε α} {ins outs : List UInt8} (h : p.Exchanges ins outs q)
    (f : α → Program ε β) : (p >>= f).Exchanges ins outs (q >>= f) := by
  induction h with
  | refl p => exact .refl _
  | readExact size rest ih => exact .readExact size ih
  | writeAll rest ih => exact .writeAll ih

theorem bind_done {p : Program ε α} {a : α} {ins outs : List UInt8}
    (h : p.Exchanges ins outs (.done a)) {f : α → Program ε β} {q : Program ε β} (next : f a = q) :
    (p >>= f).Exchanges ins outs q := by
  subst next
  exact h.bind f

theorem mapErr {p q : Program ε α} {ins outs : List UInt8} (h : p.Exchanges ins outs q)
    (g : ε → ε') : (p.mapErr g).Exchanges ins outs (q.mapErr g) := by
  induction h with
  | refl p => exact .refl _
  | readExact size rest ih => exact .readExact size ih
  | writeAll rest ih => exact .writeAll ih

theorem attempt {p q : Program ε α} {ins outs : List UInt8} (h : p.Exchanges ins outs q) :
    (p.attempt : Program ε' (Except ε α)).Exchanges ins outs q.attempt := by
  induction h with
  | refl p => exact .refl _
  | readExact size rest ih => exact .readExact size ih
  | writeAll rest ih => exact .writeAll ih

theorem answer {p q r : Program ε α} {ins outs : List UInt8} (first : p.Exchanges ins [] q)
    (second : q.Exchanges [] outs r) : p.Exchanges ins outs r := by
  have both := first.trans second
  rwa [List.append_nil] at both

theorem read {bytes : List UInt8} {count : Nat} (size : bytes.length = count) :
    (Program.read count).Exchanges bytes [] (.done bytes) := by
  have whole : (Program.read count).Exchanges (bytes ++ []) [] (.done bytes) :=
    .readExact size (.refl _)
  rwa [List.append_nil] at whole

theorem write (bytes : List UInt8) : (Program.write bytes).Exchanges [] bytes (.done ()) := by
  have whole : (Program.write bytes).Exchanges [] (bytes ++ []) (.done ()) :=
    .writeAll (.refl _)
  rwa [List.append_nil] at whole

/-- Run against a stream that starts with what it reads, a computation ends up
where it exchanges to. -/
theorem run {p q : Program ε α} {ins outs : List UInt8} (h : p.Exchanges ins outs q)
    {s : Socket} {rest : List UInt8} (writable : s.Writable) (stream : s.incoming = ins ++ rest) :
    p.run s = q.run { s with incoming := rest, outgoing := s.outgoing ++ outs } := by
  induction h generalizing s with
  | refl p =>
    have same : s.incoming = rest := stream
    rw [← same, List.append_nil]
  | @readExact count next bytes ins outs q size _ ih =>
    rw [List.append_assoc] at stream
    have enough : count ≤ s.incoming.length := by
      rw [stream, List.length_append]
      omega
    rw [Program.run, Socket.read_of_le enough, stream, List.take_left' size,
      List.drop_left' size]
    exact @ih { s with incoming := ins ++ rest } writable rfl
  | @writeAll bytes ins outs next q _ ih =>
    rw [Program.run, writable.write, ← List.append_assoc]
    exact @ih { s with outgoing := s.outgoing ++ bytes } writable stream

end Exchanges

end Program

end Foundation
