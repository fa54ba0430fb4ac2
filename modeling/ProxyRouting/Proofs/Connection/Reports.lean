import ProxyRouting.Connection.Trace
import ProxyRouting.Proofs.Socks5.Failures

/-!
# The reports of attempts

An attempt that has ended is reported in one line, which tells of the result that was handed out
(`Attempt.isReport_report`): the target and the proxy, and where the proxy is or why there is no
connection. A failure always has a text to tell (`Error.message_ne_nil`).

The proxy's name and the network's errors are told as they are. The line is broken in two only if
there is a line break in one of them.
-/

namespace ProxyRouting.Connection

/-! ### Texts of errors -/

theorem ascii_ne_nil (c : Char) (rest : List Char) : ascii (String.ofList (c :: rest)) ≠ [] := by
  simp [ascii]

theorem Error.message_ne_nil (via : Address) (error : Error) : error.message via ≠ [] := by
  cases error with
  | handshake error => exact error.message_ne_nil
  | _ =>
    simp only [message, List.append_assoc]
    exact List.append_ne_nil_of_left_ne_nil (ascii_ne_nil _ _) _

/-! ### Lines -/

/-- The byte that ends a line. -/
def newline : UInt8 := 0x0A

namespace Attempt

/-- What a report tells of an attempt and its result. -/
def told (a : Attempt) (result : Result) : Bytes :=
  a.target.text ++ a.proxy ++ if result.ok then a.via.text else result.error

/-- A report of a result. -/
structure IsReport (a : Attempt) (result : Result) (report : Bytes) : Prop where
  /-- It begins with the tag. -/
  tagged : ascii "[connector] " <+: report
  /-- The end of the line is its last byte. -/
  ended : [newline] <:+ report
  /-- Besides that there are only the line breaks of what it tells. -/
  oneLine : report.count newline = (a.told result).count newline + 1
  /-- After a success it tells the target, the proxy and the proxy's address. -/
  opened : result.ok = true → report = ascii "[connector] Connected to " ++ a.target.text ++
    ascii " via " ++ a.proxy ++ ascii " (" ++ a.via.text ++ ascii ")\n"
  /-- After a failure it tells the target, the proxy and the error. -/
  failed : result.ok = false → report = ascii "[connector] " ++ a.target.text ++
    ascii " via " ++ a.proxy ++ ascii ": " ++ result.error ++ ascii "\n"

/-- **What is reported is what was handed out**, in one line. -/
theorem isReport_report (a : Attempt) (ending : Ending) :
    a.IsReport (a.result ending) (a.report ending) := by
  have via : (ascii " via ").count newline = 0 := by decide
  cases ending with
  | opened leftover =>
    have front : (ascii "[connector] Connected to ").count newline = 0 := by decide
    have bracket : (ascii " (").count newline = 0 := by decide
    have last : (ascii ")\n").count newline = 1 := by decide
    have tag : ascii "[connector] " <+: ascii "[connector] Connected to " := by decide
    refine ⟨?_, ?_, ?_, fun _ => rfl, fun failed => by cases failed⟩
    · simp only [report, List.append_assoc]
      exact tag.trans (List.prefix_append _ _)
    · exact List.suffix_append_of_suffix (by decide)
    · simp only [report, result, told, if_true, List.count_append, front, via, bracket, last]
      omega
  | failed error =>
    have tag : (ascii "[connector] ").count newline = 0 := by decide
    have mark : (ascii ": ").count newline = 0 := by decide
    have last : (ascii "\n").count newline = 1 := by decide
    refine ⟨?_, ?_, ?_, fun opened => (by cases opened), fun _ => rfl⟩
    · simp only [report, List.append_assoc]
      exact List.prefix_append _ _
    · exact List.suffix_append_of_suffix (by decide)
    · simp only [report, result, told, Bool.false_eq_true, if_false, List.count_append, tag, via,
        mark, last]
      omega

end Attempt

end ProxyRouting.Connection
