import LineShell.Text.Octets

/-!
# The accounts of a host

A host has accounts for people and for its own work. Each has a directory.
-/

namespace LineShell

/-- The accounts by their names, and their directories. -/
def accounts : List (Octets × Octets) :=
  [("root", "/root"), ("daemon", "/usr/sbin"), ("bin", "/bin"), ("sys", "/dev"), ("sync", "/bin"),
    ("games", "/usr/games"), ("man", "/var/cache/man"), ("lp", "/var/spool/lpd"),
    ("mail", "/var/mail"), ("news", "/var/spool/news"), ("uucp", "/var/spool/uucp"),
    ("proxy", "/bin"), ("www-data", "/var/www"), ("backup", "/var/backups"), ("list", "/var/list"),
    ("irc", "/run/ircd"), ("_apt", "/nonexistent"), ("nobody", "/nonexistent")].map
    fun (name, directory) => (name.toList, directory.toList)

end LineShell
