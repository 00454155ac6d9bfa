import RemoteCL.Common.Wire

/-!
# Names of the OpenCL API

The error codes, query parameters and flags of `CL/cl.h` that the library refers to.  Client and
server are compiled against the same header.
-/

namespace RemoteCL

/-! ## Error codes -/

def CL_SUCCESS : Int32 := 0
def CL_DEVICE_NOT_AVAILABLE : Int32 := -2
def CL_OUT_OF_HOST_MEMORY : Int32 := -6
def CL_INVALID_VALUE : Int32 := -30
def CL_INVALID_PLATFORM : Int32 := -32
def CL_INVALID_DEVICE : Int32 := -33
def CL_INVALID_CONTEXT : Int32 := -34
def CL_INVALID_COMMAND_QUEUE : Int32 := -36
def CL_INVALID_MEM_OBJECT : Int32 := -38
def CL_INVALID_IMAGE_FORMAT_DESCRIPTOR : Int32 := -39
def CL_INVALID_PROGRAM : Int32 := -44
def CL_INVALID_KERNEL_NAME : Int32 := -46
def CL_INVALID_KERNEL : Int32 := -48
def CL_INVALID_WORK_GROUP_SIZE : Int32 := -54
def CL_INVALID_EVENT_WAIT_LIST : Int32 := -57
def CL_INVALID_EVENT : Int32 := -58
def CL_INVALID_OPERATION : Int32 := -59
def CL_INVALID_IMAGE_DESCRIPTOR : Int32 := -65

/-! ## Query parameters -/

def CL_DEVICE_MAX_WORK_GROUP_SIZE : UInt32 := 0x1004
def CL_DEVICE_MAX_WORK_ITEM_SIZES : UInt32 := 0x1005
def CL_DEVICE_IMAGE2D_MAX_WIDTH : UInt32 := 0x1011
def CL_DEVICE_IMAGE2D_MAX_HEIGHT : UInt32 := 0x1012
def CL_DEVICE_IMAGE3D_MAX_WIDTH : UInt32 := 0x1013
def CL_DEVICE_IMAGE3D_MAX_HEIGHT : UInt32 := 0x1014
def CL_DEVICE_IMAGE3D_MAX_DEPTH : UInt32 := 0x1015
def CL_DEVICE_MAX_PARAMETER_SIZE : UInt32 := 0x1017
def CL_DEVICE_PROFILING_TIMER_RESOLUTION : UInt32 := 0x1025
def CL_DEVICE_PLATFORM : UInt32 := 0x1031
def CL_DEVICE_IMAGE_MAX_BUFFER_SIZE : UInt32 := 0x1040
def CL_DEVICE_IMAGE_MAX_ARRAY_SIZE : UInt32 := 0x1041
def CL_DEVICE_PARENT_DEVICE : UInt32 := 0x1042
def CL_DEVICE_PRINTF_BUFFER_SIZE : UInt32 := 0x1049
def CL_DEVICE_IMAGE_PITCH_ALIGNMENT : UInt32 := 0x104A
def CL_DEVICE_IMAGE_BASE_ADDRESS_ALIGNMENT : UInt32 := 0x104B
def CL_DEVICE_MAX_GLOBAL_VARIABLE_SIZE : UInt32 := 0x104D
def CL_DEVICE_GLOBAL_VARIABLE_PREFERRED_TOTAL_SIZE : UInt32 := 0x1054
def CL_CONTEXT_DEVICES : UInt32 := 0x1081
def CL_CONTEXT_PLATFORM : UInt64 := 0x1084
def CL_QUEUE_CONTEXT : UInt32 := 0x1090
def CL_QUEUE_DEVICE : UInt32 := 0x1091
def CL_MEM_CONTEXT : UInt32 := 0x1106
def CL_MEM_ASSOCIATED_MEMOBJECT : UInt32 := 0x1107
def CL_IMAGE_ELEMENT_SIZE : UInt32 := 0x1111
def CL_IMAGE_BUFFER : UInt32 := 0x1118
def CL_PROGRAM_CONTEXT : UInt32 := 0x1161
def CL_PROGRAM_DEVICES : UInt32 := 0x1163
def CL_PROGRAM_BINARY_SIZES : UInt32 := 0x1165
def CL_PROGRAM_BINARIES : UInt32 := 0x1166
def CL_KERNEL_NUM_ARGS : UInt32 := 0x1191
def CL_KERNEL_REFERENCE_COUNT : UInt32 := 0x1192
def CL_KERNEL_CONTEXT : UInt32 := 0x1193
def CL_KERNEL_PROGRAM : UInt32 := 0x1194
def CL_KERNEL_ARG_ADDRESS_QUALIFIER : UInt32 := 0x1196
def CL_KERNEL_ARG_ACCESS_QUALIFIER : UInt32 := 0x1197
def CL_KERNEL_ARG_TYPE_QUALIFIER : UInt32 := 0x1199
def CL_KERNEL_WORK_GROUP_SIZE : UInt32 := 0x11B0
def CL_KERNEL_COMPILE_WORK_GROUP_SIZE : UInt32 := 0x11B1
def CL_KERNEL_LOCAL_MEM_SIZE : UInt32 := 0x11B2
def CL_KERNEL_PREFERRED_WORK_GROUP_SIZE_MULTIPLE : UInt32 := 0x11B3
def CL_EVENT_COMMAND_QUEUE : UInt32 := 0x11D0
def CL_EVENT_COMMAND_TYPE : UInt32 := 0x11D1
def CL_EVENT_REFERENCE_COUNT : UInt32 := 0x11D2
def CL_EVENT_COMMAND_EXECUTION_STATUS : UInt32 := 0x11D3
def CL_EVENT_CONTEXT : UInt32 := 0x11D4

/-! ## Address spaces of kernel arguments -/

def CL_KERNEL_ARG_ADDRESS_GLOBAL : UInt32 := 0x119B
def CL_KERNEL_ARG_ADDRESS_LOCAL : UInt32 := 0x119C
def CL_KERNEL_ARG_ADDRESS_CONSTANT : UInt32 := 0x119D

/-! ## Flags -/

def CL_MEM_USE_HOST_PTR : UInt64 := 8
def CL_MEM_ALLOC_HOST_PTR : UInt64 := 16
def CL_MEM_COPY_HOST_PTR : UInt64 := 32
def CL_MAP_READ : UInt64 := 1
def CL_MAP_WRITE : UInt64 := 2

/-- The kinds of objects with a reference count that requests can change. -/
inductive ObjTy where
  | device
  | context
  | queue
  | program
  | kernel
  | mem
  | event
  deriving DecidableEq

/-- The letter of a kind in `Retain` and `Release` packets. -/
def ObjTy.letter : ObjTy → UInt8
  | device => 'D'.toUInt8
  | context => 'C'.toUInt8
  | queue => 'Q'.toUInt8
  | program => 'P'.toUInt8
  | kernel => 'K'.toUInt8
  | mem => 'M'.toUInt8
  | event => 'E'.toUInt8

/-- The kind that a letter stands for. -/
def ObjTy.ofLetter (c : UInt8) : Option ObjTy :=
  if c = 'D'.toUInt8 then some device
  else if c = 'C'.toUInt8 then some context
  else if c = 'Q'.toUInt8 then some queue
  else if c = 'P'.toUInt8 then some program
  else if c = 'K'.toUInt8 then some kernel
  else if c = 'M'.toUInt8 then some mem
  else if c = 'E'.toUInt8 then some event
  else none

theorem ObjTy.ofLetter_letter (ty : ObjTy) : ofLetter ty.letter = some ty := by
  cases ty <;> rfl

end RemoteCL
