import LogTail.Text.Utf8

/-!
# The name of the machine

What deliveries give as their host unless an option names another.
-/

namespace LogTail.Cli

/-- The name of the machine, as the kernel shows it. -/
def hostName : IO String := do
  try
    let bytes ← IO.FS.readBinFile "/proc/sys/kernel/hostname"
    return Text.Utf8.decodeLossy (bytes.toList.takeWhile (· ≠ 0x0a))
  catch _ => return "localhost"

end LogTail.Cli
