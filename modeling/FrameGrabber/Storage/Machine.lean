import FrameGrabber.Storage

/-!
# What is on every machine

A machine has some files before any program makes one: its devices, its accounts, its
commands, and those that show its processes and itself. Among the processes and in the
tree of the system no directories can be made.
-/

namespace FrameGrabber.Storage

def machineFiles : List String :=
  ["/dev/null", "/dev/zero", "/dev/full", "/dev/random", "/dev/urandom", "/dev/tty", "/dev/console",
    "/dev/stdin", "/dev/stdout", "/dev/stderr", "/dev/ptmx", "/etc/passwd", "/etc/group",
    "/etc/shadow", "/etc/hosts", "/etc/hostname", "/etc/resolv.conf", "/etc/fstab", "/etc/profile",
    "/etc/os-release", "/etc/nsswitch.conf", "/etc/ld.so.cache", "/bin/sh", "/bin/bash", "/bin/ls",
    "/bin/cat", "/bin/true", "/bin/false", "/bin/echo", "/usr/bin/env", "/usr/bin/sh",
    "/usr/bin/bash", "/usr/bin/ls", "/usr/bin/cat", "/usr/bin/true", "/proc/cmdline",
    "/proc/cpuinfo", "/proc/devices", "/proc/diskstats", "/proc/filesystems", "/proc/interrupts",
    "/proc/kmsg", "/proc/loadavg", "/proc/meminfo", "/proc/mounts", "/proc/partitions",
    "/proc/stat", "/proc/swaps", "/proc/uptime", "/proc/version", "/proc/self/cmdline",
    "/proc/self/environ", "/proc/self/exe", "/proc/self/maps", "/proc/self/mem",
    "/proc/self/mounts", "/proc/self/stat", "/proc/self/status"]

/-- Directories in which nothing can be made. -/
def closedDirectories : List (String × StorageError) :=
  [("/proc", .missing), ("/proc/self", .missing), ("/sys", .notPermitted)]

/-- A machine with an empty working directory at a path. -/
def machine (working : String) : Storage :=
  let closed (s : Storage) (d : String × StorageError) := s.put d.1 (.directory (some d.2))
  let s := closedDirectories.foldl closed {}
  let s := machineFiles.foldl (fun (s : Storage) f => s.put f .file) s
  let s := s.put working .directory
  { s with working := names working }

end FrameGrabber.Storage
